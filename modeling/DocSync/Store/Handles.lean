import DocSync.Store

/-! # Stores shared through handles

  A store may be reached through several handles. Cloning a handle gives
  another one to the same store, so that an edit through either is seen through
  both; a fresh handle reaches a new, empty store that no other handle reaches.

  A document read through a handle can be kept under a name. Such a snapshot is
  a value of its own: later edits do not touch it.
-/

namespace DocSync

/-- Stores, the handles that reach them, and the snapshots taken so far. -/
structure Handles where
  stores : List Store
  /-- For each handle the position of its store. -/
  targets : List Nat
  /-- The snapshots by name, the latest first. -/
  snapshots : List (String × Option Document)
  targets_lt : ∀ t ∈ targets, t < stores.length

namespace Handles

/-- One handle to one empty store. -/
def initial : Handles := ⟨[.empty], [0], [], by simp⟩

def store? (s : Handles) (h : Nat) : Option Store :=
  s.targets[h]?.bind (s.stores[·]?)

/-- What can be done through a handle. -/
inductive Step where
  | edit (e : Store.Edit)
  | query (q : Store.Query)
  /-- Another handle to the same store. -/
  | clone
  /-- A handle to a new store. -/
  | fresh
  /-- Keeps the document of an identifier under a name. -/
  | takeSnapshot (id : DocumentId) (name : String)
  /-- Shows a snapshot and compares it with a document of the store. -/
  | readSnapshot (name : String) (id : Option DocumentId)
  deriving DecidableEq, Repr

/-- What a step gives. -/
inductive Reply where
  /-- Edits give nothing. -/
  | done
  | answered (result : Except Store.Refusal Store.Answer)
  /-- The number of a new handle. -/
  | handle (h : Nat)
  /-- Whether the kept document was open. -/
  | kept (wasOpen : Bool)
  | compared (snapshot : Option Document) (equalsLive : Bool)
  /-- The step names a handle that does not exist. -/
  | noSuchHandle

/-- The document kept under a name; an unknown name is as good as a snapshot
    of a document that was not open. -/
def snapshot (s : Handles) (name : String) : Option Document :=
  (s.snapshots.lookup name).join

/-- An edit of the store at a position. -/
def editAt (s : Handles) (t : Nat) (e : Store.Edit) : Handles :=
  { s with
    stores := s.stores.modify t (·.edit e)
    targets_lt := by simpa using s.targets_lt }

def step (s : Handles) (h : Nat) (a : Step) : Handles × Reply :=
  match s.targets[h]? with
  | none => (s, .noSuchHandle)
  | some t =>
    if ht : t < s.stores.length then
      let live := s.stores[t]
      match a with
      | .edit e => (s.editAt t e, .done)
      | .query q => (s, .answered (live.answer q))
      | .clone =>
        ({ s with
            targets := s.targets ++ [t]
            targets_lt := by
              intro x hx
              rcases List.mem_append.1 hx with hx | hx
              · exact s.targets_lt x hx
              · simp only [List.mem_singleton] at hx
                exact hx ▸ ht },
          .handle s.targets.length)
      | .fresh =>
        ({ s with
            stores := s.stores ++ [.empty]
            targets := s.targets ++ [s.stores.length]
            targets_lt := by
              intro x hx
              rcases List.mem_append.1 hx with hx | hx
              · exact Nat.lt_of_lt_of_le (s.targets_lt x hx) (by simp)
              · simp only [List.mem_singleton] at hx
                simp [hx] },
          .handle s.targets.length)
      | .takeSnapshot id name =>
        ({ s with snapshots := (name, live.get? id) :: s.snapshots },
          .kept (live.isOpen id))
      | .readSnapshot name id =>
        let kept := s.snapshot name
        (s, .compared kept (kept = id.bind live.get?))
    else (s, .noSuchHandle)

/-- The states and replies of a run, one for each step. -/
def run (s : Handles) : List (Nat × Step) → List (Handles × Reply)
  | [] => []
  | (h, a) :: rest =>
    let next := s.step h a
    next :: run next.1 rest

def runState (s : Handles) (steps : List (Nat × Step)) : Handles :=
  steps.foldl (fun s a => (s.step a.1 a.2).1) s

end Handles

end DocSync
