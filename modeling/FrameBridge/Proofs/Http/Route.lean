import FrameBridge.Http.Route
import FrameBridge.Proofs.Text.Split
import FrameBridge.Proofs.Text.Utf8

/-!
# Routes without names

A route whose written form has no braces stands for itself: it is the route of
one path, and no other path has its pattern.  If it has no star either, it can
be read exactly if no colon stands right behind a slash.
-/

namespace FrameBridge
namespace Route

section Reading

variable {bytes : List UInt8}

theorem single_of_ne
    {b : UInt8}
    (hopen : b ≠ openBrace) (hclose : b ≠ closeBrace) :
    signs.single b = .plain b := by
  rw [signs.single, if_neg hopen, if_neg hclose]

/-- Without braces, every byte stands for itself. -/
theorem signs_of_plain
    (hopen : openBrace ∉ bytes) (hclose : closeBrace ∉ bytes) :
    signs bytes = bytes.map .plain := by
  fun_induction signs bytes with
  | case1 =>
      rfl
  | case2 b =>
      rw [List.mem_singleton] at hopen hclose
      rw [single_of_ne (Ne.symm hopen) (Ne.symm hclose)]
      rfl
  | case3 b c bytes hdouble ih =>
      rcases hdouble.2 with rfl | rfl
      · exact absurd List.mem_cons_self hopen
      · exact absurd List.mem_cons_self hclose
  | case4 b c bytes hsingle ih =>
      rw [List.mem_cons, not_or] at hopen hclose
      rw [single_of_ne (Ne.symm hopen.1) (Ne.symm hclose.1), ih hopen.2 hclose.2]
      rfl

/-- A written form without names is read as the bytes it has. -/
theorem readParts_plain :
    readParts .outside (bytes.map .plain) = some (bytes.map .literal) := by
  induction bytes with
  | nil =>
      rfl
  | cons b bytes ih =>
      rw [List.map_cons, readParts, ih]
      rfl

variable {path : String} {route : Route}

theorem ofNat_notMem
    {sign : Char}
    (hascii : sign.toNat < 0x80)
    (habsent : sign ∉ path.toList) :
    UInt8.ofNat sign.toNat ∉ Utf8.encodeString path :=
  mt (Utf8.mem_of_mem_encode hascii) habsent

/-- A path without braces is read as the route of that path. -/
theorem eq_ofLiteral_of_ofPath?
    (hopen : '\x7b' ∉ path.toList) (hclose : '\x7d' ∉ path.toList)
    (hroute : ofPath? path = some route) :
    route = ofLiteral path := by
  have hopen' : openBrace ∉ Utf8.encodeString path := ofNat_notMem (by decide) hopen
  have hclose' : closeBrace ∉ Utf8.encodeString path := ofNat_notMem (by decide) hclose
  simp only [ofPath?] at hroute
  split at hroute
  · rw [signs_of_plain hopen' hclose', readParts_plain] at hroute
    obtain ⟨hsome, -⟩ := Option.filter_eq_some_iff.mp hroute
    exact (Option.some.inj hsome).symm
  · cases hroute

/-- Two paths have two routes. -/
theorem ofLiteral_inj
    {literal : String} :
    ofLiteral literal = ofLiteral path ↔ literal = path := by
  have hinjective : Function.Injective RoutePart.literal := fun _ _ => RoutePart.literal.inj
  rw [ofLiteral, ofLiteral, List.map_inj_right hinjective, Utf8.encodeString_inj]

end Reading

section Segments

variable {bytes : List UInt8} {path : String}

/-- Without stars, a segment is refused only for a colon behind a slash. -/
theorem hasPlainSegments_iff
    (hroot : bytes.head? = some slash) (hstar : star ∉ bytes) :
    hasPlainSegments bytes = true ↔ ¬ [slash, colon] <:+: bytes := by
  have hcolon :
      (∃ segment ∈ Text.splitAll slash bytes, segment.head? = some colon) ↔
        [slash, colon] <:+: bytes := by
    rw [Text.exists_part_iff (by decide), hroot]
    simp [slash, colon]
  have hnostar :
      ∀ segment ∈ Text.splitAll slash bytes, segment.head? ≠ some star := by
    intro segment hmem hhead
    rcases (Text.exists_part_iff (by decide)).mp ⟨segment, hmem, hhead⟩ with hfirst | hpair
    · rw [hroot] at hfirst
      exact absurd hfirst (by decide)
    · exact hstar (hpair.subset (by simp))
  rw [← hcolon, hasPlainSegments, List.all_eq_true]
  constructor
  · rintro hall ⟨segment, hmem, hhead⟩
    have hplain := hall segment hmem
    rw [hhead] at hplain
    exact absurd hplain (by decide)
  · intro hnone segment hmem
    rw [Bool.and_eq_true, bne_iff_ne, bne_iff_ne]
    exact ⟨fun hhead => hnone ⟨segment, hmem, hhead⟩, hnostar segment hmem⟩

/-- A path from the root without braces and stars is no route exactly if one of its
segments begins with a colon. -/
theorem ofPath?_eq_none_iff
    (hroot : path.toList.head? = some '/')
    (hopen : '\x7b' ∉ path.toList) (hclose : '\x7d' ∉ path.toList)
    (hstar : '*' ∉ path.toList) :
    ofPath? path = none ↔ ['/', ':'] <:+: path.toList := by
  have hroot' : (Utf8.encodeString path).head? = some slash :=
    (Utf8.head?_encode (by decide)).mpr hroot
  have hpair :
      [slash, colon] <:+: Utf8.encodeString path ↔ ['/', ':'] <:+: path.toList :=
    Utf8.pair_infix_encode (a := '/') (b := ':') (by decide) (by decide)
  have hplain :
      hasPlainSegments (Utf8.encodeString path) = true ↔ ¬ ['/', ':'] <:+: path.toList := by
    rw [hasPlainSegments_iff hroot' (ofNat_notMem (by decide) hstar), hpair]
  constructor
  · intro hnone
    by_contra hcolon
    have hread :
        (readParts .outside (signs (Utf8.encodeString path))) = some (ofLiteral path) := by
      rw [signs_of_plain (ofNat_notMem (by decide) hopen) (ofNat_notMem (by decide) hclose),
        readParts_plain]
      rfl
    rw [ofPath?, if_pos (by simp [hroot', hplain.mpr hcolon]), hread] at hnone
    have hnames : (ofLiteral path).count .segment = 0 := by
      simp [ofLiteral, List.count_eq_zero]
    simp [Option.filter, hnames] at hnone
  · intro hcolon
    have hrefused : hasPlainSegments (Utf8.encodeString path) = false := by
      rw [Bool.eq_false_iff, Ne, hplain, not_not]
      exact hcolon
    rw [ofPath?, if_neg (by simp [hrefused])]

end Segments

section Matching

variable {bytes path : List UInt8}

theorem matchesPath_literal :
    matchesPath (bytes.map .literal) path = true ↔ path = bytes := by
  induction bytes generalizing path with
  | nil =>
      simp [matchesPath]
  | cons b bytes ih =>
      cases path with
      | nil =>
          simp [matchesPath]
      | cons c path =>
          simp [matchesPath, ih]

/-- No path but its own has the pattern of a literal route. -/
theorem matchesPath_ofLiteral
    {literal : String} :
    (ofLiteral literal).matchesPath path = true ↔ path = Utf8.encodeString literal :=
  matchesPath_literal

end Matching

end Route
end FrameBridge
