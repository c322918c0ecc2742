import DocSync.Proofs.Store.Sharing

/-! # Documents do not interfere

  An operation on a store is an edit or a read, and it is about one document or,
  like the number of documents, about none in particular. What an operation
  about a document gives depends on that document alone, and only an edit of it
  changes it.

  Hence a run may be thinned out: `replies_kept` drops every operation that is
  not about a document, and any of the reads that are, and leaves the replies of
  the rest and the document as they were. `replies_isolated` says this of the
  operations that go through a handle, and concludes that two runs in which the
  operations on each document are the same give the same replies for each.
-/

namespace DocSync

namespace Store

/-! ### Operations -/

/-- An edit of a store or a read of it. -/
inductive Operation where
  | edit (e : Edit)
  | query (q : Query)
  deriving DecidableEq

/-- The document that a read is about; some reads are about the whole store. -/
def Query.id? : Query → Option DocumentId
  | .isOpen id | .line id _ | .content id | .count id | .lineCount id | .document id => some id
  | .ids | .size | .isEmpty => none

namespace Operation

def id? : Operation → Option DocumentId
  | .edit e => some e.id
  | .query q => q.id?

def isAbout (id : DocumentId) (o : Operation) : Bool := o.id? = some id

def isEdit : Operation → Bool
  | .edit _ => true
  | .query _ => false

/-- The operation as a step through a handle. -/
def step : Operation → Handles.Step
  | .edit e => .edit e
  | .query q => .query q

end Operation

def operate (s : Store) : Operation → Store
  | .edit e => s.edit e
  | .query _ => s

def reply (s : Store) : Operation → Handles.Reply
  | .edit _ => .done
  | .query q => .answered (s.answer q)

def operateAll (s : Store) (ops : List Operation) : Store := ops.foldl operate s

/-- What a list of operations gives, one reply for each. -/
def replies (s : Store) : List Operation → List Handles.Reply
  | [] => []
  | o :: rest => s.reply o :: replies (s.operate o) rest

/-! ### One operation -/

section step
variable {s t : Store} {id : DocumentId}

/-- A read about a document depends on that document alone, refusals included. -/
theorem answer_congr (h : s.get? id = t.get? id) {q : Query} (hq : q.id? = some id) :
    s.answer q = t.answer q := by
  have hget : s.get id = t.get id := by rw [get, get, h]
  cases q with
  | ids => cases hq
  | size => cases hq
  | isEmpty => cases hq
  | isOpen _ =>
    obtain rfl := Option.some.inj hq
    rw [answer, answer, isOpen, isOpen, h]
  | line _ n =>
    obtain rfl := Option.some.inj hq
    rw [answer, answer, line, line, hget]
  | content _ =>
    obtain rfl := Option.some.inj hq
    rw [answer, answer, content, content, hget]
  | count _ =>
    obtain rfl := Option.some.inj hq
    rw [answer, answer, count, count, hget]
  | lineCount _ =>
    obtain rfl := Option.some.inj hq
    rw [answer, answer, lineCount?, lineCount?, h]
  | document _ =>
    obtain rfl := Option.some.inj hq
    rw [answer, answer, h]

theorem reply_congr (h : s.get? id = t.get? id) {o : Operation} (ho : o.id? = some id) :
    s.reply o = t.reply o := by
  cases o with
  | edit e => rfl
  | query q => rw [reply, reply, answer_congr h ho]

/-- Stores that agree on a document still do so after the same operation. -/
theorem get?_operate_congr (h : s.get? id = t.get? id) (o : Operation) :
    (s.operate o).get? id = (t.operate o).get? id := by
  cases o with
  | edit e => rw [operate, operate, get?_edit, get?_edit, h]
  | query q => exact h

/-- Only an edit of a document changes it. -/
theorem get?_operate_of_not_edit {o : Operation} (ho : ¬ (o.isEdit ∧ o.id? = some id)) :
    (s.operate o).get? id = s.get? id := by
  cases o with
  | edit e =>
    have hne : id ≠ e.id := fun heq => ho ⟨rfl, congrArg some heq.symm⟩
    rw [operate, get?_edit, if_neg hne]
  | query q => rfl

end step

/-! ### Thinning out a run -/

/-- The elements that are marked. -/
def kept {α : Type} (marked : List (α × Bool)) : List α :=
  (marked.filter Prod.snd).map Prod.fst

@[simp] theorem kept_nil {α : Type} : kept ([] : List (α × Bool)) = [] := rfl

@[simp] theorem kept_cons_true {α : Type} (a : α) (rest : List (α × Bool)) :
    kept ((a, true) :: rest) = a :: kept rest := rfl

@[simp] theorem kept_cons_false {α : Type} (a : α) (rest : List (α × Bool)) :
    kept ((a, false) :: rest) = kept rest := rfl

theorem kept_map_mark {α : Type} (p : α → Bool) (l : List α) :
    kept (l.map fun a => (a, p a)) = l.filter p := by
  induction l with
  | nil => rfl
  | cons a rest ih =>
    rw [List.map_cons]
    cases hp : p a with
    | true => rw [kept_cons_true, ih, List.filter_cons_of_pos hp]
    | false => rw [kept_cons_false, ih, List.filter_cons_of_neg (by simp [hp])]

/-- Marks that keep only operations about a document, and every edit of it. The
    reads of it may be marked or not. -/
structure Singles (id : DocumentId) (marked : List (Operation × Bool)) : Prop where
  isAbout : ∀ m ∈ marked, m.2 = true → m.1.isAbout id
  edits : ∀ m ∈ marked, m.1.isEdit → m.1.isAbout id → m.2 = true

theorem Singles.tail {id : DocumentId} {m : Operation × Bool} {rest : List (Operation × Bool)}
    (h : Singles id (m :: rest)) : Singles id rest :=
  ⟨fun n hn => h.isAbout n (List.mem_cons_of_mem _ hn),
    fun n hn => h.edits n (List.mem_cons_of_mem _ hn)⟩

/-- The operations that are kept give what they gave among all, and leave the
    document as all of them did. The induction is on the marks; the two stores
    agree on the document throughout, and on nothing else. -/
theorem replies_kept {id : DocumentId} {marked : List (Operation × Bool)}
    (h : Singles id marked) {s t : Store} (hst : s.get? id = t.get? id) :
    t.replies (kept marked) = kept ((s.replies (marked.map Prod.fst)).zip (marked.map Prod.snd)) ∧
      (t.operateAll (kept marked)).get? id = (s.operateAll (marked.map Prod.fst)).get? id := by
  induction marked generalizing s t with
  | nil => exact ⟨rfl, hst.symm⟩
  | cons m rest ih =>
    obtain ⟨o, mark⟩ := m
    cases mark with
    | true =>
      have habout : o.id? = some id := by simpa [Operation.isAbout] using h.isAbout _ (.head _) rfl
      have hreply : t.reply o = s.reply o := reply_congr hst.symm habout
      obtain ⟨hreplies, hget⟩ := ih h.tail (get?_operate_congr hst o)
      constructor
      · rw [kept_cons_true, replies, hreply, hreplies]
        rfl
      · exact hget
    | false =>
      have hno : ¬ (o.isEdit ∧ o.id? = some id) := by
        rintro ⟨hedit, habout⟩
        have hmark := h.edits _ (.head _) hedit (by simpa [Operation.isAbout] using habout)
        cases hmark
      have hst' : (s.operate o).get? id = t.get? id := by
        rw [get?_operate_of_not_edit hno]
        exact hst
      exact ih h.tail hst'

/-- The replies of the operations about a document. -/
def repliesAbout (id : DocumentId) (ops : List Operation) (given : List Handles.Reply) :
    List Handles.Reply :=
  kept (given.zip (ops.map (Operation.isAbout id)))

theorem singles_isAbout (id : DocumentId) (ops : List Operation) :
    Singles id (ops.map fun o => (o, o.isAbout id)) := by
  constructor
  · intro m hm hmark
    obtain ⟨o, -, rfl⟩ := List.mem_map.1 hm
    exact hmark
  · intro m hm _ habout
    obtain ⟨o, -, rfl⟩ := List.mem_map.1 hm
    exact habout

/-- A run is, for each document, the run of the operations about it. -/
theorem replies_filter_isAbout (s : Store) (id : DocumentId) (ops : List Operation) :
    s.replies (ops.filter (Operation.isAbout id)) = repliesAbout id ops (s.replies ops) ∧
      (s.operateAll (ops.filter (Operation.isAbout id))).get? id = (s.operateAll ops).get? id := by
  have hkept := replies_kept (singles_isAbout id ops) (rfl : s.get? id = s.get? id)
  rw [kept_map_mark, List.map_map, List.map_map] at hkept
  have hops : ops.map (Prod.fst ∘ fun o => (o, o.isAbout id)) = ops := List.map_id ops
  rw [hops] at hkept
  exact hkept

end Store

/-! ### Through a handle -/

namespace Handles

open Store

def through (h : Nat) (ops : List Operation) : List (Nat × Step) := ops.map fun o => (h, o.step)

/-- What operations through a handle give, one reply for each. -/
def replies (s : Handles) (h : Nat) (ops : List Operation) : List Reply :=
  (s.run (through h ops)).map Prod.snd

/-- The document open through a handle after operations through it. -/
def documentAfter (s : Handles) (h : Nat) (ops : List Operation) (id : DocumentId) :
    Option Document :=
  ((s.runState (through h ops)).store? h).bind (·.get? id)

theorem lt_of_store? {s : Handles} {h : Nat} {live : Store} (hs : s.store? h = some live) :
    h < s.targets.length := by
  obtain ⟨t, ht, -⟩ := Option.bind_eq_some_iff.1 hs
  exact (List.getElem?_eq_some_iff.1 ht).1

/-- A step through a handle is the operation on the store that it reaches. -/
theorem step_operation {s : Handles} {h : Nat} {live : Store} (hs : s.store? h = some live)
    (o : Operation) :
    (s.step h o.step).2 = live.reply o ∧
      (s.step h o.step).1.store? h = some (live.operate o) := by
  have hlt := lt_of_store? hs
  obtain ⟨t, ht⟩ : ∃ t, s.targets[h]? = some t := ⟨_, List.getElem?_eq_getElem hlt⟩
  cases o with
  | edit e =>
    have hshares : s.Shares h h := ⟨t, ht, ht⟩
    refine ⟨?_, ?_⟩
    · simp [Operation.step, step, ht, target_lt ht, reply]
    · rw [Operation.step, store?_step_edit hshares, hs, Option.map_some, operate]
  | query q =>
    refine ⟨reply_query hs q, ?_⟩
    rw [Operation.step, store?_step_of_not_shares hlt (by simp), hs, operate]

theorem replies_eq {s : Handles} {h : Nat} {live : Store} (hs : s.store? h = some live)
    (ops : List Operation) :
    s.replies h ops = live.replies ops ∧
      (s.runState (through h ops)).store? h = some (live.operateAll ops) := by
  induction ops generalizing s live with
  | nil => exact ⟨rfl, hs⟩
  | cons o rest ih =>
    obtain ⟨hreply, hnext⟩ := step_operation hs o
    obtain ⟨hreplies, hstate⟩ := ih hnext
    refine ⟨?_, hstate⟩
    show (s.step h o.step).2 :: (s.step h o.step).1.replies h rest = _
    rw [hreply, hreplies, Store.replies]

theorem documentAfter_eq {s : Handles} {h : Nat} {live : Store} (hs : s.store? h = some live)
    (ops : List Operation) (id : DocumentId) :
    s.documentAfter h ops id = (live.operateAll ops).get? id := by
  rw [documentAfter, (replies_eq hs ops).2, Option.bind_some]

/-- Of the operations through a handle, those that are not about a document and
    any of the reads that are can be left out: the others give what they gave,
    values and refusals alike, and the document ends up as it did. So two runs,
    be one a re-ordering of the other, in which the operations about each
    document are the same and in the same order give the same replies for each
    document and end with the same documents. -/
theorem replies_isolated {s : Handles} {h : Nat} (hh : h < s.targets.length) :
    (∀ id marked, Singles id marked →
      s.replies h (kept marked) =
        kept ((s.replies h (marked.map Prod.fst)).zip (marked.map Prod.snd)) ∧
      s.documentAfter h (kept marked) id = s.documentAfter h (marked.map Prod.fst) id) ∧
    ∀ ops ops' : List Operation,
      (∀ id, ops.filter (Operation.isAbout id) = ops'.filter (Operation.isAbout id)) →
      ∀ id, repliesAbout id ops (s.replies h ops) = repliesAbout id ops' (s.replies h ops') ∧
        s.documentAfter h ops id = s.documentAfter h ops' id := by
  obtain ⟨live, hs⟩ := exists_store?_of_lt hh
  have hreplies : ∀ ops, s.replies h ops = live.replies ops := fun ops => (replies_eq hs ops).1
  constructor
  · intro id marked hmarked
    obtain ⟨hkept, hget⟩ := replies_kept hmarked (rfl : live.get? id = live.get? id)
    rw [hreplies, hreplies, documentAfter_eq hs, documentAfter_eq hs]
    exact ⟨hkept, hget⟩
  · intro ops ops' hsame id
    obtain ⟨hown, hget⟩ := live.replies_filter_isAbout id ops
    obtain ⟨hown', hget'⟩ := live.replies_filter_isAbout id ops'
    rw [hreplies, hreplies, documentAfter_eq hs, documentAfter_eq hs]
    constructor
    · rw [← hown, ← hown', hsame id]
    · rw [← hget, ← hget', hsame id]

/-- Identifiers that differ in case or in the encoding of a character name
    different documents, so that what is done with one does not show in the
    other, be it refused or not. -/
theorem replies_isolated_case :
    let a : DocumentId := ⟨"file:///a"⟩
    let b : DocumentId := ⟨"file:///A"⟩
    let c : DocumentId := ⟨"file:///%61"⟩
    let marked : List (Operation × Bool) :=
      [(.edit (.openText a "x\r\ny"), true), (.edit (.openText b "z"), false),
        (.query (.line a 7), false), (.query (.content c), false), (.query .size, false),
        (.edit (.close b), false), (.query (.line a 1), true), (.query (.count a), false),
        (.query (.line a 2), true)]
    let swapped : List Operation := [.edit (.close c), .edit (.openText a "x"), .query (.count c)]
    let ordered : List Operation := [.edit (.openText a "x"), .edit (.close c), .query (.count c)]
    0 < initial.targets.length ∧ Singles a marked ∧
    initial.replies 0 (kept marked) = [.done, .answered (.ok (.text "y")),
      .answered (.error (.lineOutOfRange 2 a 2))] ∧
    kept ((initial.replies 0 (marked.map Prod.fst)).zip (marked.map Prod.snd)) =
      initial.replies 0 (kept marked) ∧
    (∀ id, swapped.filter (Operation.isAbout id) = ordered.filter (Operation.isAbout id)) ∧
    repliesAbout c swapped (initial.replies 0 swapped) =
      repliesAbout c ordered (initial.replies 0 ordered) := by
  intro a b c marked swapped ordered
  have hh : 0 < initial.targets.length := by decide
  have hsingles : Singles a marked := ⟨by decide, by decide⟩
  have hsame : ∀ id,
      swapped.filter (Operation.isAbout id) = ordered.filter (Operation.isAbout id) := by
    intro id
    by_cases ha : id = a
    · subst ha
      decide
    · have hopen : Operation.isAbout id (.edit (.openText a "x")) = false := by
        simpa [Operation.isAbout, Operation.id?, Edit.id] using Ne.symm ha
      simp [swapped, ordered, List.filter_cons, hopen]
  obtain ⟨hkept, hordered⟩ := replies_isolated hh
  exact ⟨hh, hsingles, rfl, (hkept a marked hsingles).1.symm, hsame,
    (hordered swapped ordered hsame c).1⟩

end Handles

end DocSync
