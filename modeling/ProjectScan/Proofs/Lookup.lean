import Mathlib.Data.List.DropRight
import ProjectScan.Proofs.Scan

/-!
Which entry of a store a scan takes its credential from: the first one that has the wanted id and
applies to the server. The address and the id that a navigator is made of count without the blanks
around them.
-/

namespace ProjectScan

def StoredCredential.fits (entry : StoredCredential) (serverUrl id : String) : Bool :=
  entry.id.same (.text id) &&
    match entry.appliesTo serverUrl with
    | .ok applies => applies
    | .error _ => false

def Store.selected? (store : Store) (serverUrl id : String) : Option StoredCredential :=
  store.entries.find? fun entry => entry.fits serverUrl id

theorem Store.fits_iff {entry : StoredCredential} {serverUrl id : String} :
    entry.fits serverUrl id = true ↔ entry.id = .text id ∧ entry.appliesTo serverUrl = .ok true := by
  unfold StoredCredential.fits
  rw [Bool.and_eq_true, Json.same_text_iff]
  cases entry.appliesTo serverUrl with
  | error failure => simp
  | ok verdict => simp

theorem Store.decides_of_fits {entry : StoredCredential} {serverUrl id : String}
    (fits : entry.fits serverUrl id = true) : decides serverUrl id entry = true := by
  obtain ⟨named, applies⟩ := fits_iff.mp fits
  rw [decides_iff, applies]
  exact ⟨named, nofun⟩

theorem Store.eq_selected?_of_find? {store : Store} {serverUrl id : String}
    {found : Option Credential} (looked : store.find? serverUrl id = .ok found) :
    found = (store.selected? serverUrl id).map (·.credential) := by
  unfold find? at looked
  unfold selected?
  rcases findIn?_cases store.entries serverUrl id with
    ⟨undecided, looks⟩ | ⟨entry, first, named, ⟨applies, looks⟩ | ⟨_, _, looks⟩⟩
  · cases looked.symm.trans looks
    have nothing : store.entries.find? (fun entry => entry.fits serverUrl id) = none := by
      rw [List.find?_eq_none] at undecided ⊢
      intro entry member fits
      exact undecided entry member (decides_of_fits fits)
    rw [nothing]
    rfl
  · cases looked.symm.trans looks
    have fits : entry.fits serverUrl id = true := fits_iff.mpr ⟨named, applies⟩
    rw [find?_of_imp (fun _ => decides_of_fits) first fits]
    rfl
  · cases looked.symm.trans looks

theorem Store.fits_of_selected? {store : Store} {serverUrl id : String} {entry : StoredCredential}
    (found : store.selected? serverUrl id = some entry) :
    entry ∈ store.entries ∧ entry.id.same (.text id) = true ∧
      entry.appliesTo serverUrl = .ok true := by
  unfold selected? at found
  have fits := List.find?_some found
  obtain ⟨named, applies⟩ := fits_iff.mp fits
  exact ⟨List.mem_of_find?_eq_some found, Json.same_text_iff.mpr named, applies⟩

namespace Text

theorem dropEndWhile_eq_rdropWhile (drop : Char → Bool) (text : List Char) :
    dropEndWhile drop text = text.rdropWhile drop := rfl

theorem trim_trim (text : List Char) : trim (trim text) = trim text := by
  unfold trim trimEnd
  generalize begun : trimStart text = start
  rw [dropEndWhile_eq_rdropWhile, dropEndWhile_eq_rdropWhile]
  -- What is left begins as `start` does, which has no blank in front.
  have unchanged : trimStart (start.rdropWhile isBlank) = start.rdropWhile isBlank := by
    unfold trimStart
    rw [List.dropWhile_eq_self_iff]
    intro nonempty
    have initial := List.rdropWhile_prefix isBlank start
    have solid : start.dropWhile isBlank = start := by
      rw [← begun]
      exact List.dropWhile_idempotent _ _
    have longer : 0 < start.length := Nat.lt_of_lt_of_le nonempty initial.length_le
    have first := (List.dropWhile_eq_self_iff.mp solid) longer
    have same := initial.getElem nonempty
    intro blank
    apply first
    rw [← same]
    exact blank
  rw [unchanged]
  exact List.rdropWhile_idempotent _ _

end Text

namespace Navigator

theorem stripped?_eq_some {text : Option String} (solid : Text.trimmed (text.getD "") ≠ "") :
    stripped? text = some (Text.trimmed (text.getD "")) := by
  unfold stripped?
  split
  · rename_i blank
    exact absurd blank solid
  · rfl

/-- An address that resolves is kept without the blanks around it, and resolves to the same. -/
theorem stripped?_of_resolve {url : Option String} {endpoint : Endpoint}
    (resolves : Endpoint.resolve url = .ok endpoint) :
    stripped? url = some (Text.trimmed (url.getD "")) ∧
      Endpoint.resolve (stripped? url) = .ok endpoint := by
  have solid : Text.trimmed (url.getD "") ≠ "" := by
    intro blank
    have nothing : Text.trim (url.getD "").toList = [] := by
      rw [← String.toList_ofList (l := Text.trim _)]
      exact congrArg String.toList blank
    unfold Endpoint.resolve at resolves
    rw [nothing] at resolves
    cases resolves
  have kept := stripped?_eq_some solid
  refine ⟨kept, ?_⟩
  rw [kept, ← resolves]
  unfold Endpoint.resolve Text.trimmed
  rw [Option.getD_some, String.toList_ofList, Text.trim_trim]

/-- The credential of a scan is that of the first entry that fits, if the look-up comes to a
result. -/
theorem eq_selected?_of_credential? (navigator : Navigator) {serverUrl : String}
    (address : navigator.serverUrl = some serverUrl) {found : Option Credential}
    (looked : navigator.credential? = .ok found) :
    found = (navigator.credentialsId.bind (navigator.store.selected? serverUrl)).map
      (·.credential) := by
  unfold credential? at looked
  rw [address] at looked
  cases wanted : navigator.credentialsId with
  | none =>
      rw [wanted] at looked
      cases looked
      rfl
  | some id =>
      rw [wanted] at looked
      exact Store.eq_selected?_of_find? looked

end Navigator

end ProjectScan
