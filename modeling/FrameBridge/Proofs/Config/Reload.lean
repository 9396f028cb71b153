import FrameBridge.Config.Reload

/-!
# Versions that are accepted

Whatever is loaded was validated, so nothing but valid configurations ever
waits.  An event that does not concern the watched file brings no version, nor
does a file that cannot be loaded.
-/

namespace FrameBridge
namespace Config

variable {config version : Config} {watched : Option String} {event : FileEvent}
  {content : FileContent}

/-- Validation changes nothing about what it accepts. -/
theorem validate_eq_ok_iff :
    config.validate = .ok version ↔ config.Valid ∧ version = config := by
  unfold validate Valid
  cases hproblems : config.problems with
  | nil =>
      simp [eq_comm]
  | cons problem problems =>
      simp

theorem valid_of_parse
    {text : String}
    (hparse : parse text = .ok config) :
    config.Valid := by
  unfold parse at hparse
  split at hparse
  · obtain ⟨hvalid, rfl⟩ := validate_eq_ok_iff.mp hparse
    exact hvalid
  · cases hparse

/-- No file can bring a configuration that has problems. -/
theorem valid_of_load
    (hload : load content = .ok config) :
    config.Valid := by
  unfold load at hload
  split at hload
  · exact valid_of_parse hload
  · cases hload

theorem valid_of_initial
    {source : Source}
    (hinitial : initial source = .ok config) :
    config.Valid := by
  cases source with
  | defaults =>
      simp only [initial] at hinitial
      obtain ⟨hvalid, rfl⟩ := validate_eq_ok_iff.mp hinitial
      exact hvalid
  | file content =>
      simp only [initial] at hinitial
      exact valid_of_load hinitial

/-- A version comes from an event of the watched file whose content can be loaded. -/
theorem reloaded?_eq_some_iff :
    reloaded? watched event content = some version ↔
      event.concerns watched = true ∧ load content = .ok version := by
  unfold reloaded?
  cases hconcerns : event.concerns watched with
  | false =>
      simp
  | true =>
      cases hload : load content <;> simp [Except.toOption]

/-- An event of other files, or of content that cannot be loaded, brings no version. -/
theorem reloaded?_eq_none
    (hrejected :
      event.concerns watched = false ∨ ∃ cause, load content = .error cause) :
    reloaded? watched event content = none := by
  rcases hrejected with hother | ⟨cause, hload⟩
  · simp [reloaded?, hother]
  · simp [reloaded?, hload, Except.toOption]

theorem valid_of_reloaded
    (hreloaded : reloaded? watched event content = some version) :
    version.Valid :=
  valid_of_load (reloaded?_eq_some_iff.mp hreloaded).2

end Config

namespace FileEvent

/-- A file is concerned if it was created or modified under its name. -/
theorem concerns_iff
    {event : FileEvent} {watched : Option String} :
    event.concerns watched = true ↔
      (event.kind = .create ∨ event.kind = .modify) ∧
        ∃ name ∈ event.names, watched = some name := by
  cases watched with
  | none =>
      simp [concerns]
  | some name =>
      simp [concerns]

end FileEvent
end FrameBridge
