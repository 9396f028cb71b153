import FrameBridge.Proofs.Server.Servable

/-!
# Reloading and restarting

A version that is applied to a server takes the place of the settings that are
read anew for each request.  All others stay as they were when the server was
built.  So a server goes by a version as a server that was built from it exactly
if the version agrees in the fixed settings with the configuration at the start.

What is reported is another comparison: with the version before, and without the
limit for plain requests, although this limit is fixed as well.
-/

namespace FrameBridge
namespace Server

variable {start previous next last : Config} {earlier : List Config} {layout : Layout}
  {server : Server}

/-- Applies versions, one after the other. -/
def applyAll (server : Server) (versions : List Config) : Server :=
  versions.foldl applyUpdate server

/-- The server goes by a configuration as a server that is built from it. -/
def AsRestarted (server : Server) (config : Config) : Prop :=
  ∃ fresh, ofConfig? config = some fresh ∧ server.settings = fresh.settings

section Comparison

/-- A version is not reported exactly if it agrees in five settings. -/
theorem needsRestart_eq_false_iff :
    needsRestart previous next = false ↔
      previous.listener.bindAddress = next.listener.bindAddress ∧
      previous.listener.maxSessions = next.listener.maxSessions ∧
      previous.listener.tls = next.listener.tls ∧
      previous.relay.path = next.relay.path ∧
      previous.admin.enabled = next.admin.enabled := by
  simp only [needsRestart, Bool.or_eq_false_iff, bne_eq_false_iff_eq, and_assoc]

theorem needsRestart_self
    (config : Config) :
    needsRestart config config = false :=
  needsRestart_eq_false_iff.mpr ⟨rfl, rfl, rfl, rfl, rfl⟩

/-- Configurations that are not told apart are compared with others alike. -/
theorem needsRestart_congr
    (hsame : needsRestart previous next = false) :
    needsRestart start previous = needsRestart start next := by
  obtain ⟨hbind, hmax, htls, hpath, hadmin⟩ := needsRestart_eq_false_iff.mp hsame
  simp only [needsRestart, hbind, hmax, htls, hpath, hadmin]

end Comparison

section Applying

theorem applyAll_concat :
    server.applyAll (earlier ++ [last]) = (server.applyAll earlier).applyUpdate last := by
  rw [applyAll, List.foldl_append]
  rfl

/-- Versions do not change what was fixed when the server was built, and the
last one is in force. -/
theorem applyAll_frame
    (server : Server) (versions : List Config) :
    (server.applyAll versions).startup = server.startup ∧
      (server.applyAll versions).route = server.route ∧
      (server.applyAll versions).tracker = server.tracker ∧
      (server.applyAll versions).config = versions.getLastD server.config := by
  induction versions generalizing server with
  | nil =>
      exact ⟨rfl, rfl, rfl, rfl⟩
  | cons version versions ih =>
      obtain ⟨hstartup, hroute, htracker, hconfig⟩ := ih (server.applyUpdate version)
      refine ⟨hstartup, hroute, htracker, ?_⟩
      rw [List.getLastD_cons]
      exact hconfig

/-- The settings of a server that was built from one configuration and went
over to another. -/
theorem settings_applyAll
    (hstart : start.Valid)
    (hbuilt : ofConfig? start layout = some server) :
    (server.applyAll (earlier ++ [last])).settings =
      { bindAddress := start.listener.bindAddress
        maxSessions := start.listener.maxSessions
        tls := start.listener.tls
        route := Route.ofLiteral start.relay.path
        hasAdmin := start.admin.enabled
        requestSecs := start.timeouts.requestSecs
        policy := last.relay
        connectSecs := last.timeouts.connectSecs
        adminKey := last.admin.apiKey } := by
  obtain ⟨-, rfl⟩ := (ofConfig?_eq_some_iff hstart).mp hbuilt
  obtain ⟨hstartup, hroute, htracker, hconfig⟩ :=
    applyAll_frame (atLiteral start layout) (earlier ++ [last])
  rw [List.getLastD_concat] at hconfig
  simp only [settings, hstartup, hroute, htracker, hconfig]
  rfl

/-- Whether a server goes by the last version as after a restart depends on this
version and the start alone. -/
theorem asRestarted_iff
    (hstart : start.Valid) (hlast : last.Valid)
    (hbuilt : ofConfig? start layout = some server) :
    (server.applyAll (earlier ++ [last])).AsRestarted last ↔
      needsRestart start last = false ∧
        start.timeouts.requestSecs = last.timeouts.requestSecs := by
  rw [AsRestarted, settings_applyAll hstart hbuilt, needsRestart_eq_false_iff]
  obtain ⟨hplain, -⟩ := (ofConfig?_eq_some_iff hstart).mp hbuilt
  constructor
  · rintro ⟨fresh, hfresh, hsettings⟩
    obtain ⟨-, rfl⟩ := (ofConfig?_eq_some_iff hlast).mp hfresh
    injection hsettings with hbind hmax htls hroute hadmin hrequest
    exact ⟨⟨hbind, hmax, htls, Route.ofLiteral_inj.mp hroute, hadmin⟩, hrequest⟩
  · rintro ⟨⟨hbind, hmax, htls, hpath, hadmin⟩, hrequest⟩
    -- the path was a route at the start, so it is one now
    rw [hpath] at hplain
    refine ⟨atLiteral last, ofConfig?_of_plain hlast hplain, ?_⟩
    rw [hbind, hmax, htls, hpath, hadmin, hrequest]
    rfl

end Applying

section Reports

/-- None of the versions is reported when it comes. -/
def Unreported (server : Server) : List Config → Prop
  | [] => True
  | version :: versions =>
      needsRestart server.config version = false ∧
        (server.applyUpdate version).Unreported versions

/-- Versions that are not reported one by one do not differ from the first one in
what is compared. -/
theorem needsRestart_of_unreported
    {versions : List Config}
    (hsame : needsRestart start server.config = false)
    (hunreported : server.Unreported versions) :
    needsRestart start (server.applyAll versions).config = false := by
  induction versions generalizing server with
  | nil =>
      exact hsame
  | cons version versions ih =>
      obtain ⟨hversion, hrest⟩ := hunreported
      refine ih ?_ hrest
      rw [← hsame]
      exact (needsRestart_congr hversion).symm

end Reports

section Results

theorem valid_of_requestSecs
    {secs : Nat}
    (hvalid : start.Valid)
    (hsecs : secs ≠ 0) :
    Config.Valid { start with timeouts.requestSecs := secs } := by
  rw [Config.valid_iff_sound] at hvalid ⊢
  exact
    { bindAddress := hvalid.bindAddress
      maxSessions := hvalid.maxSessions
      relayPath := hvalid.relayPath
      remote := hvalid.remote
      allowedTargets := hvalid.allowedTargets
      hasTarget := hvalid.hasTarget
      bufferSize := hvalid.bufferSize
      connectSecs := hvalid.connectSecs
      requestSecs := hsecs
      adminKey := hvalid.adminKey }

/-- Applying a version that is not reported is as good as a restart exactly if
the version before had the fixed settings of the start and the limit for plain
requests is that of the start.  This is so if no version on the way was reported
and the limit was kept.  Otherwise it can fail in two ways, at every server: a
version that was reported comes again, or a version changes nothing but the limit
for plain requests. -/
theorem unreported_asRestarted_iff
    (earlier : List Config)
    (hstart : start.Valid) (hlast : last.Valid)
    (hbuilt : ofConfig? start layout = some server) :
    (needsRestart (server.applyAll earlier).config last = false →
      ((server.applyAll (earlier ++ [last])).AsRestarted last ↔
        needsRestart start (server.applyAll earlier).config = false ∧
          start.timeouts.requestSecs = last.timeouts.requestSecs)) ∧
    (server.Unreported (earlier ++ [last]) →
      start.timeouts.requestSecs = last.timeouts.requestSecs →
      (server.applyAll (earlier ++ [last])).AsRestarted last) ∧
    (needsRestart start last = true →
      needsRestart (server.applyAll [last]).config last = false ∧
        ¬ (server.applyAll [last, last]).AsRestarted last) ∧
    ∀ secs, secs ≠ 0 → secs ≠ start.timeouts.requestSecs →
      let next := { start with timeouts.requestSecs := secs }
      next.Valid ∧ server.Unreported [next] ∧ ¬ (server.applyAll [next]).AsRestarted next := by
  have hconfig : server.config = start := by
    obtain ⟨-, rfl⟩ := (ofConfig?_eq_some_iff hstart).mp hbuilt
    rfl
  refine ⟨?_, ?_, ?_, ?_⟩
  · intro hunreported
    rw [asRestarted_iff hstart hlast hbuilt, needsRestart_congr hunreported]
  · intro hunreported hrequest
    rw [asRestarted_iff hstart hlast hbuilt]
    refine ⟨?_, hrequest⟩
    have hstarted : needsRestart start server.config = false := by
      rw [hconfig]
      exact needsRestart_self start
    have hsame := needsRestart_of_unreported hstarted hunreported
    rw [applyAll_concat] at hsame
    exact hsame
  · intro hreported
    refine ⟨needsRestart_self last, ?_⟩
    rw [← List.singleton_append, asRestarted_iff hstart hlast hbuilt, hreported]
    exact fun h => Bool.noConfusion h.1
  · intro secs hsecs hne
    have hnext := valid_of_requestSecs hstart hsecs
    refine ⟨hnext, ⟨?_, trivial⟩, ?_⟩
    · rw [hconfig]
      exact needsRestart_eq_false_iff.mpr ⟨rfl, rfl, rfl, rfl, rfl⟩
    · rw [← List.nil_append [_], asRestarted_iff hstart hnext hbuilt]
      exact fun h => hne h.2.symm

/-- Room for five sessions. -/
def widened : Config where
  listener := { maxSessions := 5 }

theorem unreported_asRestarted_iff_widened :
    ∃ server,
      ofConfig? {} = some server ∧
      widened.Valid ∧
      needsRestart (server.applyAll [widened]).config widened = false ∧
      ¬ (server.applyAll [widened, widened]).AsRestarted widened := by
  obtain ⟨server, hbuilt⟩ : ∃ server, ofConfig? {} = some server :=
    ⟨_, rfl⟩
  have hstart : Config.Valid {} := rfl
  have hvalid : widened.Valid := rfl
  obtain ⟨-, -, htwice, -⟩ := unreported_asRestarted_iff [] hstart hvalid hbuilt
  exact ⟨server, hbuilt, hvalid, htwice rfl⟩

/-- It does not hold that a version which is not reported is as good as a
restart. -/
theorem unreported_differs :
    ¬ ∀ (start last : Config) (earlier : List Config) (server : Server),
      start.Valid →
      (∀ version ∈ earlier ++ [last], version.Valid) →
      ofConfig? start = some server →
      needsRestart (server.applyAll earlier).config last = false →
      (server.applyAll (earlier ++ [last])).AsRestarted last := by
  intro hequal
  obtain ⟨server, hbuilt⟩ : ∃ server, ofConfig? {} = some server :=
    ⟨_, rfl⟩
  have hstart : Config.Valid {} := rfl
  have hvalid : widened.Valid := rfl
  have hall : ∀ version ∈ [widened] ++ [widened], version.Valid := by
    intro version hmem
    rcases List.mem_pair.mp hmem with rfl | rfl <;> exact hvalid
  have hsame :=
    hequal {} widened [widened] server hstart hall hbuilt (needsRestart_self widened)
  rw [asRestarted_iff hstart hvalid hbuilt] at hsame
  exact absurd hsame.1 (by decide)

end Results

end Server
end FrameBridge
