import FrameBridge.Proofs.Relay.Resolution
import FrameBridge.Proofs.Target.RoundTrip

/-!
# Targets in queries

A request that names a target in its query gets this target, however the written
form was encoded, whatever white space is around it, and whatever other pairs are
in the query.

The part of the query with the target is the only one with its name.  It is read
as the written form with white space around it, and without the white space as
the target.
-/

namespace FrameBridge
namespace RelayPolicy

/-- The part of a query that gives a target. -/
def targetPart (encoded : List UInt8) : List UInt8 :=
  Utf8.encodeString targetParameter ++ Query.equals :: encoded

section Parts

variable {encoded : List UInt8} {text : List Char}

/-- The part is read as the name of the parameter and the text that was encoded. -/
theorem decodePair_targetPart
    (hencoded : Query.Encodes (Utf8.encode text) encoded) :
    Query.decodePair (targetPart encoded) = (targetParameter, String.ofList text) := by
  have hequals : Query.equals ∉ Utf8.encodeString targetParameter := by
    decide
  have hname :
      Query.decodeBytes (Utf8.encodeString targetParameter) =
        Utf8.encodeString targetParameter := by
    decide
  refine Query.decodePair_of_split (Text.splitFirst_append hequals) hname ?_
  rw [hencoded.decodeBytes_eq, Utf8.encodeString, String.toList_ofList]

/-- An encoded text has no ampersand, so its part of the query stays in one piece. -/
theorem ampersand_notMem_targetPart
    (hencoded : Query.Encodes (Utf8.encode text) encoded) :
    Query.ampersand ∉ targetPart encoded := by
  have hname : Query.ampersand ∉ Utf8.encodeString targetParameter := by
    decide
  rw [targetPart, List.mem_append, not_or]
  exact ⟨hname, List.not_mem_cons_of_ne_of_not_mem (by decide) hencoded.ampersand_notMem⟩

variable {uri : Uri} {before after : List (List UInt8)}

/-- If no other part has the name of the parameter, then the text of this one is
what the query names. -/
theorem names_of_targetPart
    (hquery :
      uri.query =
        some ([Query.ampersand].intercalate (before ++ targetPart encoded :: after)))
    (hparts : ∀ part ∈ before ++ after, Query.ampersand ∉ part)
    (hothers : ∀ part ∈ before ++ after, (Query.decodePair part).1 ≠ targetParameter)
    (hencoded : Query.Encodes (Utf8.encode text) encoded) :
    targetCount uri ≤ 1 ∧ Names uri (String.ofList text) := by
  have hall : ∀ part ∈ before ++ targetPart encoded :: after, Query.ampersand ∉ part := by
    intro part hpart
    rcases List.mem_append.mp hpart with hpart | hpart
    · exact hparts part (List.mem_append_left _ hpart)
    · rcases List.mem_cons.mp hpart with rfl | hpart
      · exact ampersand_notMem_targetPart hencoded
      · exact hparts part (List.mem_append_right _ hpart)
  constructor
  · rw [targetCount, hquery]
    exact Query.countP_pairs_le_one hall hothers
  · rw [Names, hquery, Option.getD_some, Query.pairs_intercalate hall (by simp)]
    refine List.mem_map.mpr ⟨targetPart encoded, ?_, decodePair_targetPart hencoded⟩
    simp [targetPart]

end Parts

section Surrounded

variable {t : Target} {front back : List Char}

theorem trimString_render
    (hwell : t.WellFormed)
    (hblank : ∀ c ∈ front ++ back, Text.isBlank c = true) :
    Text.trimString (String.ofList (front ++ t.render.toList ++ back)) = t.render := by
  have hne : t.render.toList ≠ [] := by
    simp [Target.render]
  have hstrip :=
    Text.stripBoth_append Text.isBlank t.render.toList
      (fun c hc => hblank c (List.mem_append_left _ hc))
      (fun c hc => hblank c (List.mem_append_right _ hc))
      hne (fun _ => Target.isBlank_head_render hwell) fun _ => Target.isBlank_last_render
  rw [Text.trimString, String.toList_ofList, Text.trim, hstrip, String.ofList_toList]

/-- White space around the written form of a target does not matter. -/
theorem parse_surrounded_render
    (hwell : t.WellFormed)
    (hblank : ∀ c ∈ front ++ back, Text.isBlank c = true) :
    Target.parse (String.ofList (front ++ t.render.toList ++ back)) = .ok t := by
  rw [← Target.parse_trimString, trimString_render hwell hblank, Target.parse_render hwell]

theorem not_isBlankText_render
    (hwell : t.WellFormed)
    (hblank : ∀ c ∈ front ++ back, Text.isBlank c = true) :
    ¬ Text.IsBlankText (String.ofList (front ++ t.render.toList ++ back)) := by
  rw [← Text.trimString_eq_empty_iff, trimString_render hwell hblank]
  simp [Target.render]

end Surrounded

section Requests

variable {policy : RelayPolicy} {headers : Headers} {uri : Uri} {t : Target}
  {before after : List (List UInt8)} {encoded : List UInt8} {front back : List Char}

/-- A request that may name a target, and names one that is admitted, gets it: the
written form can stand anywhere in the query, in any encoding and with any white
space around it. -/
theorem resolve_encoded_target
    (hwell : t.WellFormed)
    (hallowed : policy.allowClientTarget = true)
    (hadmits :
      policy.allowedTargets = [] ∨
        ∃ entry ∈ policy.allowedTargets, t.matchesEntry entry = true)
    (hupgrade : Http.isUpgrade headers = true)
    (hquery :
      uri.query =
        some ([Query.ampersand].intercalate (before ++ targetPart encoded :: after)))
    (hparts : ∀ part ∈ before ++ after, Query.ampersand ∉ part)
    (hothers : ∀ part ∈ before ++ after, (Query.decodePair part).1 ≠ targetParameter)
    (hencoded :
      Query.Encodes (Utf8.encode (front ++ t.render.toList ++ back)) encoded)
    (hblank : ∀ c ∈ front ++ back, Text.isBlank c = true) :
    policy.resolve headers uri = .ok t := by
  obtain ⟨honce, hnames⟩ := names_of_targetPart hquery hparts hothers hencoded
  have hasks : Asks uri (String.ofList (front ++ t.render.toList ++ back)) :=
    ⟨honce, hnames, not_isBlankText_render hwell hblank⟩
  have hgranted : policy.Granted headers uri t :=
    .requested hupgrade hasks hallowed (parse_surrounded_render hwell hblank) hadmits
  exact hgranted.resolve

/-- An address with escapes in either letter case, a plus sign in front and an
escaped tab behind, between two other pairs. -/
theorem resolve_encoded_target_address :
    ∃ uri,
      Uri.parse? "/ws?x=1&remote_addr=+%5b::1]%3A80%09&y=remote_addr" = some uri ∧
      { listed with allowedTargets := ["[::1]:80"] }.resolve
        [⟨"upgrade", Utf8.encodeString "websocket"⟩] uri = .ok ⟨"::1", 80⟩ := by
  have hwell : Target.WellFormed ⟨"::1", 80⟩ := ⟨by decide, by decide⟩
  have hadmits : Target.matchesEntry ⟨"::1", 80⟩ "[::1]:80" = true := by
    decide
  have hquery :
      some (Utf8.encodeString "x=1&remote_addr=+%5b::1]%3A80%09&y=remote_addr") =
        some ([Query.ampersand].intercalate ([Utf8.encodeString "x=1"] ++
          targetPart (Utf8.encodeString "+%5b::1]%3A80%09") ::
            [Utf8.encodeString "y=remote_addr"])) := by
    decide
  have hfirst : Query.decodePair (Utf8.encodeString "x=1") = ("x", "1") :=
    Query.decodePair_of_split rfl rfl rfl
  have hlast : Query.decodePair (Utf8.encodeString "y=remote_addr") = ("y", "remote_addr") :=
    Query.decodePair_of_split rfl rfl rfl
  have hothers :
      ∀ part ∈ [Utf8.encodeString "x=1"] ++ [Utf8.encodeString "y=remote_addr"],
        (Query.decodePair part).1 ≠ targetParameter := by
    intro part hpart
    rcases List.mem_cons.mp hpart with rfl | hpart
    · rw [hfirst]
      decide
    · rw [List.mem_singleton.mp hpart, hlast]
      decide
  have hport :
      Query.Encodes (Utf8.encodeString "80\t") (Utf8.encodeString "80%09") :=
    .plain (by decide) (by decide) (by decide)
      (.plain (by decide) (by decide) (by decide) (.escape rfl rfl .nil))
  have hencoded :
      Query.Encodes
        (Utf8.encode ([' '] ++ (Target.render ⟨"::1", 80⟩).toList ++ ['\t']))
        (Utf8.encodeString "+%5b::1]%3A80%09") :=
    .space (.escape rfl rfl
      (.plain (by decide) (by decide) (by decide)
        (.plain (by decide) (by decide) (by decide)
          (.plain (by decide) (by decide) (by decide)
            (.plain (by decide) (by decide) (by decide) (.escape rfl rfl hport))))))
  have hparse :
      Uri.parse? "/ws?x=1&remote_addr=+%5b::1]%3A80%09&y=remote_addr" =
        some ⟨Utf8.encodeString "/ws",
          some (Utf8.encodeString "x=1&remote_addr=+%5b::1]%3A80%09&y=remote_addr")⟩ := by
    decide
  have hblank : ∀ c ∈ [' '] ++ ['\t'], Text.isBlank c = true := by
    intro c hc
    rcases List.mem_cons.mp hc with rfl | hc
    · rfl
    · rw [List.mem_singleton.mp hc]
      rfl
  exact
    ⟨_, hparse,
      resolve_encoded_target hwell rfl (Or.inr ⟨_, List.mem_singleton_self _, hadmits⟩)
        (by decide) hquery (by decide) hothers hencoded hblank⟩

end Requests

end RelayPolicy
end FrameBridge
