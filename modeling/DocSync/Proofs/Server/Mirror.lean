import DocSync.Server
import Mathlib.Data.List.Forall2
import Mathlib.Logic.Function.Basic

/-! # The store mirrors the editor

  What the editor has open is a map from the texts of URIs to documents, which
  each call changes at one key at most. `mirrors_apply` is one call of the
  simulation, `mirrors_run` a sequence of calls, and `run_mirrors_calls` the
  statement about a server that starts with nothing open.

  Of a call only the texts count: the two sides of `SameTexts` may differ in
  versions, languages, ranges, the name of the client and every change after
  the first.
-/

namespace DocSync.Server

/-! ### What the editor has open -/

/-- The document that is open at each text of a URI. -/
abbrev Mirror := String → Option Document

namespace Mirror

def empty : Mirror := fun _ => none

/-- What is open after a call. -/
def step (m : Mirror) : Call → Mirror
  | .startup _ => m
  | .initialized => m
  | .shutdown => m
  | .didOpen uri _ _ text => Function.update m uri.text (some (.ofText text))
  | .didChange _ _ [] => m
  | .didChange uri _ (first :: _) => Function.update m uri.text (some (.ofText first.text))
  | .didClose uri => Function.update m uri.text none

/-- What is open after each call of a sequence. -/
def run (m : Mirror) : List Call → List Mirror
  | [] => []
  | c :: rest => m.step c :: run (m.step c) rest

end Mirror

/-- The store holds the documents of the mirror, each under the text of its URI,
    and no others. -/
structure Mirrors (s : Store) (m : Mirror) : Prop where
  get? : ∀ key, s.get? ⟨key⟩ = m key
  mem_ids : ∀ key, ⟨key⟩ ∈ s.ids ↔ (m key).isSome
  nodup_ids : s.ids.Nodup

theorem mirrors_iff (s : Store) (m : Mirror) : Mirrors s m ↔ ∀ key, s.get? ⟨key⟩ = m key := by
  constructor
  · intro h
    exact h.get?
  · intro h
    refine ⟨h, ?_, s.nodup_ids⟩
    intro key
    rw [s.mem_ids_iff, h]

/-! ### The simulation -/

/-- An edit of the document at a URI is an update at the text of the URI. -/
theorem Mirrors.edit {s : Store} {m : Mirror} (h : Mirrors s m) {e : Store.Edit} {uri : Uri}
    (he : e.id = .ofUri uri) : Mirrors (s.edit e) (Function.update m uri.text e.document?) := by
  rw [mirrors_iff]
  intro key
  rw [Store.get?_edit, he, DocumentId.ofUri]
  by_cases hkey : key = uri.text
  · rw [hkey, if_pos rfl, Function.update_self]
  · have hid : (⟨key⟩ : DocumentId) ≠ ⟨uri.text⟩ := by
      intro heq
      exact hkey (DocumentId.mk.inj heq)
    rw [if_neg hid, Function.update_of_ne hkey, h.get?]

theorem mirrors_apply {s : Store} {m : Mirror} (h : Mirrors s m) (c : Call) :
    Mirrors (c.apply s) (m.step c) := by
  cases c with
  | startup client => exact h
  | initialized => exact h
  | shutdown => exact h
  | didOpen uri language version text => exact h.edit (e := .openText (.ofUri uri) text) rfl
  | didChange uri version changes =>
    cases changes with
    | nil => exact h
    | cons first others => exact h.edit (e := .changeText (.ofUri uri) first.text) rfl
  | didClose uri => exact h.edit (e := .close (.ofUri uri)) rfl

theorem mirrors_run {s : Store} {m : Mirror} (h : Mirrors s m) (calls : List Call) :
    List.Forall₂ Mirrors ((run s calls).map Prod.fst) (m.run calls) := by
  induction calls generalizing s m with
  | nil => exact .nil
  | cons c rest ih =>
    have hstep : Mirrors (c.apply s) (m.step c) := mirrors_apply h c
    exact .cons hstep (ih hstep)

theorem mirrors_empty : Mirrors .empty .empty := by
  rw [mirrors_iff]
  intro key
  exact Store.get?_empty _

/-! ### What does not matter -/

/-- The calls are about the same document and give it the same text. -/
inductive SameTexts : Call → Call → Prop where
  | startup (client client' : Option String) : SameTexts (.startup client) (.startup client')
  | initialized : SameTexts .initialized .initialized
  | shutdown : SameTexts .shutdown .shutdown
  | didOpen (uri : Uri) (language language' : String) (version version' : Int) (text : String) :
      SameTexts (.didOpen uri language version text) (.didOpen uri language' version' text)
  | unchanged (uri : Uri) (version version' : Int) :
      SameTexts (.didChange uri version []) (.didChange uri version' [])
  | didChange (uri : Uri) (version version' : Int) (text : String) (range range' : Option Range)
      (others others' : List Change) :
      SameTexts (.didChange uri version (⟨text, range⟩ :: others))
        (.didChange uri version' (⟨text, range'⟩ :: others'))
  | didClose (uri : Uri) : SameTexts (.didClose uri) (.didClose uri)

theorem SameTexts.apply_eq {c c' : Call} (h : SameTexts c c') (s : Store) :
    c.apply s = c'.apply s := by
  cases h <;> rfl

theorem stores_eq_of_sameTexts {calls calls' : List Call}
    (h : List.Forall₂ SameTexts calls calls') (s : Store) :
    (run s calls).map Prod.fst = (run s calls').map Prod.fst := by
  induction h generalizing s with
  | nil => rfl
  | @cons c c' rest rest' hc _ ih =>
    have happly : c.apply s = c'.apply s := hc.apply_eq s
    have hrest := ih (c.apply s)
    rw [run, run, List.map_cons, List.map_cons, handle, handle, ← happly, hrest]

/-- After every call the store holds the documents that the editor has open.
    Calls with the same texts lead to the same documents at every step. -/
theorem run_mirrors_calls (calls : List Call) :
    List.Forall₂ Mirrors ((run .empty calls).map Prod.fst) (Mirror.run .empty calls) ∧
    ∀ calls', List.Forall₂ SameTexts calls calls' →
      (run .empty calls).map Prod.fst = (run .empty calls').map Prod.fst :=
  ⟨mirrors_run mirrors_empty calls, fun _ h => stores_eq_of_sameTexts h .empty⟩

/-- A change opens a document that was not open, whatever comes after the first
    text and whatever range it has. -/
theorem run_mirrors_calls_unopened :
    let uri : Uri := ⟨"file:///a", rfl⟩
    let plain : List Call := [.didChange uri 1 [⟨"x", none⟩], .didClose uri]
    let ranged : List Call :=
      [.didChange uri 2 [⟨"x", some ⟨⟨0, 0⟩, ⟨0, 1⟩⟩⟩, ⟨"y", none⟩], .didClose uri]
    List.Forall₂ SameTexts plain ranged ∧
    (run .empty plain).map Prod.fst = (run .empty ranged).map Prod.fst ∧
    ((run .empty plain).map fun r => r.1.get? (.ofUri uri)) = [some (.ofText "x"), none] := by
  intro uri plain ranged
  have hsame : List.Forall₂ SameTexts plain ranged :=
    .cons (.didChange uri 1 2 "x" _ _ _ _) (.cons (.didClose uri) .nil)
  exact ⟨hsame, (run_mirrors_calls plain).2 ranged hsame, rfl⟩

end DocSync.Server
