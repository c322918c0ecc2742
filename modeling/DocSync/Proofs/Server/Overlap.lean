import DocSync.Proofs.Server.Audit
import DocSync.Proofs.Store.Isolation
import DocSync.Proofs.Store.Snapshots

/-! # Handlers that overlap

  A server may be at work on several calls at once. A handler reaches the store by
  at most two operations, each of which is atomic: the edit of its call, and then
  a read of the number that it logs. Operations of other handlers may come between
  the two.

  - `Interleaves` says that a schedule lets each of some handlers do just its own
    operations in their order. Nothing is said of how the handlers alternate.
  - `operateAll_eq_foldl_edits`: of a schedule only the edits and their order
    count, so that handlers in the order of their edits do the same one after another.
  - `get?_operateAll` says what a read finds, which is what the last edit before it
    has left.

  `overlapping_handlers_serialize` puts these together for any number of handlers
  and any schedule.
-/

namespace DocSync

/-! ### Runs of operations -/

namespace Store

def Operation.edit? : Operation → Option Edit
  | .edit e => some e
  | .query _ => none

def edits (ops : List Operation) : List Edit := ops.filterMap Operation.edit?

/-- The last of some operations to edit a document. -/
def lastEdit? (id : DocumentId) (ops : List Operation) : Option Edit :=
  (edits ops).reverse.find? fun e => e.id = id

theorem mem_edits_iff {ops : List Operation} {e : Edit} : e ∈ edits ops ↔ .edit e ∈ ops := by
  unfold edits
  rw [List.mem_filterMap]
  constructor
  · rintro ⟨o, ho, he⟩
    cases o with
    | edit e' =>
      obtain rfl := Option.some.inj he
      exact ho
    | query q => cases he
  · intro he
    exact ⟨.edit e, he, rfl⟩

/-- Only the edits count for the store, in their order. -/
theorem operateAll_eq_foldl_edits (s : Store) (ops : List Operation) :
    s.operateAll ops = (edits ops).foldl edit s := by
  induction ops generalizing s with
  | nil => rfl
  | cons o rest ih =>
    cases o with
    | edit e => exact ih (s.edit e)
    | query q => exact ih s

/-- What is open is what the last edit of the document has left, if there was one. -/
theorem get?_operateAll (s : Store) (ops : List Operation) (id : DocumentId) :
    (s.operateAll ops).get? id =
      match lastEdit? id ops with
      | some e => e.document?
      | none => s.get? id := by
  rw [operateAll_eq_foldl_edits, lastEdit?]
  induction edits ops using List.reverseRecOn with
  | nil => rfl
  | append_singleton earlier e ih =>
    rw [List.foldl_concat, get?_edit, List.reverse_append, List.reverse_singleton,
      List.singleton_append, List.find?_cons]
    by_cases hid : e.id = id
    · rw [if_pos hid.symm, decide_eq_true hid]
    · rw [if_neg (Ne.symm hid), decide_eq_false hid]
      exact ih

theorem exists_lastEdit?_of_mem {ops : List Operation} {e : Edit} (he : .edit e ∈ ops) :
    ∃ last, lastEdit? e.id ops = some last := by
  rw [← Option.isSome_iff_exists, lastEdit?, List.find?_isSome]
  exact ⟨e, List.mem_reverse.2 (mem_edits_iff.2 he), decide_eq_true rfl⟩

end Store

namespace Server

open Store (Operation)

/-! ### The operations of a handler -/

/-- What a handler reads of the store in order to log it. -/
def Call.query? : Call → Option Store.Query
  | .shutdown => some .size
  | .didOpen uri _ _ _ => some (.lineCount (.ofUri uri))
  | .didChange uri _ (_ :: _) => some (.lineCount (.ofUri uri))
  | _ => none

/-- The operations of a handler in their order, each of which is atomic. -/
def Call.operations (c : Call) : List Operation :=
  c.edit?.toList.map .edit ++ c.query?.toList.map .query

section call
variable {c : Call}

theorem edit_mem_operations_iff {e : Store.Edit} : .edit e ∈ c.operations ↔ c.edit? = some e := by
  simp [Call.operations]

theorem query_mem_operations_iff {q : Store.Query} :
    .query q ∈ c.operations ↔ c.query? = some q := by
  simp [Call.operations]

theorem edits_operations (c : Call) : Store.edits c.operations = c.edit?.toList := by
  unfold Call.operations
  cases c.edit? <;> cases c.query? <;> rfl

/-- A handler that is alone does what its call does. -/
theorem operateAll_operations (s : Store) (c : Call) :
    s.operateAll c.operations = (handle s c).1 := by
  rw [Store.operateAll_eq_foldl_edits, edits_operations]
  show _ = c.apply s
  unfold Call.apply
  cases c.edit? <;> rfl

/-- What a handler logs is up to the store only through its read. -/
theorem events_eq_of_answer {s t : Store} (h : ∀ q ∈ c.query?, s.answer q = t.answer q) :
    c.events s = c.events t := by
  have hlines : ∀ {uri : Uri}, c.query? = some (.lineCount (.ofUri uri)) →
      Call.linesField s uri = Call.linesField t uri := by
    intro uri hq
    have hanswer := h _ hq
    simp only [Store.answer, Except.ok.injEq, Store.Answer.numberIfOpen.injEq] at hanswer
    rw [Call.linesField, Call.linesField, hanswer]
  cases c with
  | startup client => rfl
  | initialized => rfl
  | shutdown =>
    have hanswer := h .size rfl
    simp only [Store.answer, Except.ok.injEq, Store.Answer.number.injEq] at hanswer
    rw [Call.events, Call.events, hanswer]
  | didOpen uri language version text => rw [Call.events, Call.events, hlines rfl]
  | didClose uri => rfl
  | didChange uri version changes =>
    cases changes with
    | nil => rfl
    | cons first others => rw [Call.events, Call.events, hlines rfl]

/-- Only three kinds of calls read anything. -/
theorem query?_cases {q : Store.Query} (h : c.query? = some q) :
    (c = .shutdown ∧ q = .size) ∨
    (∃ uri language version text, c = .didOpen uri language version text ∧
      q = .lineCount (.ofUri uri)) ∨
    ∃ uri version first others, c = .didChange uri version (first :: others) ∧
      q = .lineCount (.ofUri uri) := by
  cases c with
  | startup client => cases h
  | initialized => cases h
  | didClose uri => cases h
  | shutdown => exact Or.inl ⟨rfl, (Option.some.inj h).symm⟩
  | didOpen uri language version text =>
    exact Or.inr (Or.inl ⟨uri, language, version, text, rfl, (Option.some.inj h).symm⟩)
  | didChange uri version changes =>
    cases changes with
    | nil => cases h
    | cons first others =>
      exact Or.inr (Or.inr ⟨uri, version, first, others, rfl, (Option.some.inj h).symm⟩)

/-- A handler that reads a number of lines has edited the same document before. -/
theorem operations_of_lineCount {id : DocumentId} (h : c.query? = some (.lineCount id)) :
    ∃ e, e.id = id ∧ c.operations = [.edit e, .query (.lineCount id)] := by
  rcases query?_cases h with ⟨-, hq⟩ | ⟨uri, language, version, text, rfl, hq⟩ |
    ⟨uri, version, first, others, rfl, hq⟩
  · cases hq
  · obtain rfl := Store.Query.lineCount.inj hq
    exact ⟨_, rfl, rfl⟩
  · obtain rfl := Store.Query.lineCount.inj hq
    exact ⟨_, rfl, rfl⟩

/-- The number of lines that a handler reads is the one that it logs. -/
theorem lines_of_lineCount {id : DocumentId} (h : c.query? = some (.lineCount id)) (s : Store) :
    ((c.events s).filterMap fun e => e.field? "lines") = [.count (s.lineCount? id)] := by
  rcases query?_cases h with ⟨-, hq⟩ | ⟨uri, language, version, text, rfl, hq⟩ |
    ⟨uri, version, first, others, rfl, hq⟩
  · cases hq
  · obtain rfl := Store.Query.lineCount.inj hq
    rfl
  · obtain rfl := Store.Query.lineCount.inj hq
    -- Each remark is there or not, and neither has such a field.
    obtain ⟨text, range⟩ := first
    cases range <;> cases others <;> rfl

/-- No handler asks for what the store may refuse. -/
theorem reply_of_mem_operations {o : Operation} (ho : o ∈ c.operations) (s : Store) :
    s.reply o = .done ∨ ∃ a, s.reply o = .answered (.ok a) := by
  cases o with
  | edit e => exact Or.inl rfl
  | query q =>
    right
    rcases query?_cases (query_mem_operations_iff.1 ho) with ⟨-, rfl⟩ | ⟨_, _, _, _, -, rfl⟩ |
      ⟨_, _, _, _, -, rfl⟩
    · exact ⟨_, rfl⟩
    · exact ⟨_, rfl⟩
    · exact ⟨_, rfl⟩

end call

/-! ### Schedules -/

/-- Operations one after another, each with the number of the handler that does it. -/
abbrev Schedule := List (Nat × Operation)

namespace Schedule

def operations (schedule : Schedule) : List Operation := schedule.map Prod.snd

def own (schedule : Schedule) (i : Nat) : List Operation :=
  (schedule.filter fun m => m.1 = i).map Prod.snd

/-- The handlers in the order of their edits. -/
def editors (schedule : Schedule) : List Nat :=
  (schedule.filter fun m => m.2.isEdit).map Prod.fst

end Schedule

/-- A schedule lets every handler do its own operations in their order, and has no
    others. -/
def Interleaves (calls : List Call) (schedule : Schedule) : Prop :=
  ∀ i, schedule.own i = (calls[i]?.map Call.operations).getD []

/-- Handlers one after another, each of them once, with those that make an edit in
    the order in which a schedule makes their edits. -/
structure Serializes (calls : List Call) (schedule : Schedule) (order : List Nat) : Prop where
  perm : order.Perm (List.range calls.length)
  editors : (order.filter fun i => (calls[i]?.bind Call.edit?).isSome) = schedule.editors

/-- The store after handlers of some numbers, one after another. -/
def serialStore (s : Store) (calls : List Call) (order : List Nat) : Store :=
  (order.filterMap (calls[·]?)).foldl (fun s c => (handle s c).1) s

section schedule
variable {calls : List Call} {schedule : Schedule}

theorem Interleaves.exists_call (h : Interleaves calls schedule) {i : Nat} {o : Operation}
    (hmem : (i, o) ∈ schedule) : ∃ c, calls[i]? = some c ∧ o ∈ c.operations := by
  have hown : o ∈ schedule.own i :=
    List.mem_map.2 ⟨(i, o), List.mem_filter.2 ⟨hmem, decide_eq_true rfl⟩, rfl⟩
  rw [h i] at hown
  cases hc : calls[i]? with
  | none =>
    rw [hc] at hown
    cases hown
  | some c =>
    rw [hc] at hown
    exact ⟨c, rfl, hown⟩

/-- The edits of a schedule are those of the calls, in the order of its editors. -/
theorem Interleaves.edits_operations (h : Interleaves calls schedule) :
    Store.edits schedule.operations =
      schedule.editors.filterMap fun i => calls[i]?.bind Call.edit? := by
  unfold Store.edits Schedule.operations Schedule.editors
  rw [List.filterMap_map, List.filterMap_map, List.filterMap_filter]
  refine List.filterMap_congr ?_
  rintro ⟨i, o⟩ hmem
  obtain ⟨c, hc, ho⟩ := h.exists_call hmem
  cases o with
  | edit e =>
    show some e = calls[i]?.bind Call.edit?
    rw [hc, Option.bind_some, edit_mem_operations_iff.1 ho]
  | query q => rfl

/-- An editor edits as often as its call does. -/
theorem Interleaves.count_editors (h : Interleaves calls schedule) (i : Nat) :
    schedule.editors.count i = (calls[i]?.bind Call.edit?).toList.length := by
  have hown : schedule.editors.count i = (Store.edits (schedule.own i)).length := by
    unfold Schedule.editors Schedule.own Store.edits
    -- Along the schedule both sides count the edits of the one handler.
    clear h
    induction schedule with
    | nil => rfl
    | cons m rest ih =>
      obtain ⟨j, o⟩ := m
      by_cases hj : j = i
      · subst hj
        cases o with
        | edit e => simpa [Operation.isEdit, Operation.edit?] using ih
        | query q => simpa [Operation.isEdit, Operation.edit?, List.filterMap_cons] using ih
      · cases o with
        | edit e => simpa [Operation.isEdit, Operation.edit?, hj] using ih
        | query q => simpa [Operation.isEdit, Operation.edit?, hj] using ih
  rw [hown, h i]
  cases calls[i]? with
  | none => rfl
  | some c => exact congrArg List.length (Server.edits_operations c)

theorem Interleaves.mem_editors_iff (h : Interleaves calls schedule) (i : Nat) :
    i ∈ schedule.editors ↔ (calls[i]?.bind Call.edit?).isSome := by
  rw [← List.count_pos_iff, h.count_editors]
  cases calls[i]?.bind Call.edit? <;> simp

/-- The editors can come first, in their order, and all others after them. -/
theorem Interleaves.exists_order (h : Interleaves calls schedule) :
    ∃ order, Serializes calls schedule order := by
  have hall : ∀ i ∈ schedule.editors, (calls[i]?.bind Call.edit?).isSome := fun i hi =>
    (h.mem_editors_iff i).1 hi
  refine ⟨schedule.editors ++
    (List.range calls.length).filter fun i => (calls[i]?.bind Call.edit?).isNone, ?_, ?_⟩
  · rw [List.perm_iff_count]
    intro i
    -- A handler is counted once, among the editors or among the others.
    rw [List.count_append, h.count_editors]
    cases hedit : calls[i]?.bind Call.edit? with
    | none =>
      rw [List.count_filter (by simp [hedit])]
      exact Nat.zero_add _
    | some e =>
      have hlt : i < calls.length := by
        by_contra hge
        rw [List.getElem?_eq_none (Nat.le_of_not_lt hge)] at hedit
        cases hedit
      have hnone : ((List.range calls.length).filter fun i =>
          (calls[i]?.bind Call.edit?).isNone).count i = 0 := by
        rw [List.count_eq_zero, List.mem_filter, hedit]
        simp
      rw [hnone, List.count_eq_one_of_mem List.nodup_range (List.mem_range.2 hlt)]
      rfl
  · rw [List.filter_append, List.filter_eq_self.2 hall, List.filter_filter]
    have hnone : ((List.range calls.length).filter fun i =>
        (calls[i]?.bind Call.edit?).isSome && (calls[i]?.bind Call.edit?).isNone) = [] := by
      rw [List.filter_eq_nil_iff]
      intro i _
      cases calls[i]?.bind Call.edit? <;> simp
    rw [hnone, List.append_nil]

/-- One after another, handlers make the edits of their calls. -/
theorem serialStore_eq (s : Store) (calls : List Call) (order : List Nat) :
    serialStore s calls order =
      (order.filterMap fun i => calls[i]?.bind Call.edit?).foldl Store.edit s := by
  unfold serialStore
  induction order generalizing s with
  | nil => rfl
  | cons i rest ih =>
    cases hc : calls[i]? with
    | none =>
      rw [List.filterMap_cons_none hc, List.filterMap_cons_none (by rw [hc]; rfl)]
      exact ih s
    | some c =>
      rw [List.filterMap_cons_some hc, List.foldl_cons, ih]
      show _ = List.foldl Store.edit s (List.filterMap _ (i :: rest))
      have happly : (handle s c).1 = c.apply s := rfl
      rw [happly, Call.apply]
      cases he : c.edit? with
      | none => rw [List.filterMap_cons_none (by rw [hc]; exact he)]
      | some e => rw [List.filterMap_cons_some (by rw [hc]; exact he), List.foldl_cons]

theorem Serializes.store_eq {order : List Nat} (ho : Serializes calls schedule order)
    (h : Interleaves calls schedule) (s : Store) :
    s.operateAll schedule.operations = serialStore s calls order := by
  rw [Store.operateAll_eq_foldl_edits, h.edits_operations, serialStore_eq, ← ho.editors,
    List.filterMap_filter]
  refine congrArg (List.foldl Store.edit s) (List.filterMap_congr ?_)
  intro i _
  cases calls[i]?.bind Call.edit? <;> rfl

/-- Handlers are never refused anything. -/
theorem Interleaves.reply_ok (h : Interleaves calls schedule) (s : Store) {r : Handles.Reply}
    (hr : r ∈ s.replies schedule.operations) : r = .done ∨ ∃ a, r = .answered (.ok a) := by
  have hown : ∀ o ∈ schedule.operations, ∃ c : Call, o ∈ c.operations := by
    intro o ho
    obtain ⟨⟨i, o⟩, hmem, rfl⟩ := List.mem_map.1 ho
    obtain ⟨c, -, hc⟩ := h.exists_call hmem
    exact ⟨c, hc⟩
  clear h
  generalize schedule.operations = ops at hr hown
  induction ops generalizing s with
  | nil => cases hr
  | cons o rest ih =>
    rcases List.mem_cons.1 hr with rfl | hrest
    · obtain ⟨c, hc⟩ := hown o List.mem_cons_self
      exact reply_of_mem_operations hc s
    · exact ih (s.operate o) hrest fun o' ho' => hown o' (List.mem_cons_of_mem _ ho')

/-- Before a handler reads the number of lines of a document it has edited it. -/
theorem Interleaves.edit_mem_before (h : Interleaves calls schedule) {before after : Schedule}
    {i : Nat} {id : DocumentId}
    (hsplit : schedule = before ++ (i, .query (.lineCount id)) :: after) :
    ∃ e, e.id = id ∧ .edit e ∈ before.operations := by
  obtain ⟨c, hc, ho⟩ := h.exists_call (i := i) (o := .query (.lineCount id)) (by simp [hsplit])
  obtain ⟨e, he, hops⟩ := operations_of_lineCount (query_mem_operations_iff.1 ho)
  have hown : before.own i ++ .query (.lineCount id) :: Schedule.own after i =
      [.edit e, .query (.lineCount id)] := by
    have hi := h i
    rw [hc, Option.map_some, Option.getD_some, hops, hsplit] at hi
    simpa [Schedule.own] using hi
  refine ⟨e, he, ?_⟩
  -- The read is not the first of the handler's two operations, so the edit is in front.
  cases hbefore : before.own i with
  | nil =>
    rw [hbefore] at hown
    cases hown
  | cons o rest =>
    rw [hbefore] at hown
    obtain ⟨rfl, -⟩ := List.cons.inj hown
    have hmem : Operation.edit e ∈ before.own i := by simp [hbefore]
    obtain ⟨m, hm, hme⟩ := List.mem_map.1 hmem
    exact List.mem_map.2 ⟨m, (List.mem_filter.1 hm).1, hme⟩

end schedule

/-- The number of lines of the text that an edit gives; there is none if it closes. -/
def linesGiven (e : Store.Edit) : Option Nat :=
  e.text?.map fun text => (Document.ofText text).lineCount

theorem lineCount?_operateAll {ops : List Operation} {id : DocumentId} {e : Store.Edit}
    (h : Store.lastEdit? id ops = some e) (s : Store) :
    (s.operateAll ops).lineCount? id = linesGiven e := by
  rw [Store.lineCount?, Store.get?_operateAll, h]
  show e.document?.map Document.lineCount = _
  rw [Store.Edit.document?_eq_map, Option.map_map]
  rfl

/-- The operations of a handler are all that ties it to the store: by themselves they
    do what the call does, and what it logs is up to its read. Whatever the schedule
    of some handlers, none of them is refused anything, and the store is in the end
    that of the handlers one after another, in the order of their edits. A handler
    that logs a number of lines reads it at one point of the schedule. What it logs is
    what the last edit of the document before that point gives, which need not be its
    own: no number just if that edit closes the document. -/
theorem overlapping_handlers_serialize (s : Store) (calls : List Call) (schedule : Schedule)
    (h : Interleaves calls schedule) :
    (∀ c ∈ calls, ∀ t : Store, t.operateAll c.operations = (handle t c).1 ∧
      ∀ t' : Store, (∀ q ∈ c.query?, t.answer q = t'.answer q) → c.events t = c.events t') ∧
    (∀ r ∈ s.replies schedule.operations, r = .done ∨ ∃ a, r = .answered (.ok a)) ∧
    (∃ order, Serializes calls schedule order) ∧
    (∀ order, Serializes calls schedule order →
      s.operateAll schedule.operations = serialStore s calls order) ∧
    ∀ i c id, calls[i]? = some c → c.query? = some (.lineCount id) →
      (∃ before after, schedule = before ++ (i, .query (.lineCount id)) :: after) ∧
      ∀ before after : Schedule, schedule = before ++ (i, .query (.lineCount id)) :: after →
        ∃ e, Store.lastEdit? id before.operations = some e ∧
          ((c.events (s.operateAll before.operations)).filterMap fun e => e.field? "lines") =
            [.count (linesGiven e)] := by
  refine ⟨fun c _ t => ⟨operateAll_operations t c, fun t' ht => events_eq_of_answer ht⟩,
    fun r hr => h.reply_ok s hr, h.exists_order, fun order ho => ho.store_eq h s, ?_⟩
  intro i c id hc hquery
  constructor
  · have hmem : Operation.query (.lineCount id) ∈ schedule.own i := by
      rw [h i, hc]
      exact query_mem_operations_iff.2 hquery
    obtain ⟨⟨j, o⟩, hm, rfl⟩ := List.mem_map.1 hmem
    obtain ⟨hin, hj⟩ := List.mem_filter.1 hm
    have hj : j = i := of_decide_eq_true hj
    subst hj
    exact List.append_of_mem hin
  · intro before after hsplit
    obtain ⟨e, he, hmem⟩ := h.edit_mem_before hsplit
    obtain ⟨last, hlast⟩ := Store.exists_lastEdit?_of_mem hmem
    rw [he] at hlast
    refine ⟨last, hlast, ?_⟩
    rw [lines_of_lineCount hquery, lineCount?_operateAll hlast]

/-- A document is opened and closed at once, and closed before the first handler
    reads its number of lines. One after another the handlers would log that number;
    here there is none, and the document is closed all the same. -/
theorem overlapping_handlers_serialize_closed :
    let uri : Uri := ⟨"file:///a", rfl⟩
    let opening : Call := .didOpen uri "gauge" 1 "x\ny"
    let schedule : Schedule :=
      [(0, .edit (.openText (.ofUri uri) "x\ny")), (1, .edit (.close (.ofUri uri))),
        (0, .query (.lineCount (.ofUri uri)))]
    let before : Schedule := schedule.take 2
    Interleaves [opening, .didClose uri] schedule ∧
    Serializes [opening, .didClose uri] schedule [0, 1] ∧
    Store.empty.operateAll schedule.operations =
      serialStore .empty [opening, .didClose uri] [0, 1] ∧
    ((opening.events (Store.empty.operateAll before.operations)).filterMap
      fun e => e.field? "lines") = [.count none] ∧
    (((handle .empty opening).2).filterMap fun e => e.field? "lines") = [.count (some 2)] := by
  intro uri opening schedule before
  have h : Interleaves [opening, .didClose uri] schedule := by
    intro i
    match i with
    | 0 => rfl
    | 1 => rfl
    | i + 2 => simp [schedule, Schedule.own]
  have horder : Serializes [opening, .didClose uri] schedule [0, 1] := ⟨by decide, rfl⟩
  obtain ⟨-, -, -, hstore, hlines⟩ := overlapping_handlers_serialize .empty _ schedule h
  obtain ⟨e, he, hlogged⟩ := (hlines 0 opening _ rfl rfl).2 before [] rfl
  obtain rfl : Store.Edit.close (.ofUri uri) = e := Option.some.inj (Eq.trans (by rfl) he)
  exact ⟨h, horder, hstore _ horder, hlogged, rfl⟩

end Server

end DocSync
