import DocSync.Toml.Reader
import Mathlib.Data.List.Nodup

/-! # Names in a document

  The table that a document spells gives each name once. Every change to a table
  keeps it so (`Keeps`): a member is either put in the place of the one of its
  name, or added where its name is not yet given. A line makes one such change,
  or none, and a document is line after line.
-/

namespace DocSync.Toml

/-- Each name is given once. -/
def Distinct {α : Type} (members : List (String × α)) : Prop := (members.map Prod.fst).Nodup

section
variable {α : Type} {members : List (String × α)}

theorem lookup_isSome_iff_mem (members : List (String × α)) (name : String) :
    (members.lookup name).isSome ↔ name ∈ members.map Prod.fst := by
  rw [List.lookup_isSome_iff, List.mem_map]
  constructor
  · rintro ⟨m, hm, hname⟩
    exact ⟨m, hm, (beq_iff_eq.mp hname).symm⟩
  · rintro ⟨m, hm, rfl⟩
    exact ⟨m, hm, beq_self_eq_true m.1⟩

/-- A name that is not yet given may be added. -/
theorem Distinct.add (h : Distinct members) {name : String}
    (hname : ¬(members.lookup name).isSome) (v : α) : Distinct (members ++ [(name, v)]) := by
  have hfresh : name ∉ members.map Prod.fst := by
    rwa [← lookup_isSome_iff_mem]
  show ((members ++ [(name, v)]).map Prod.fst).Nodup
  rw [List.map_append, List.map_singleton]
  exact List.Nodup.append h (List.nodup_singleton name) (by simpa using hfresh)

end

namespace Node
variable {members later : Members} {change : Change} {name : String}

theorem distinct_put (h : Distinct members) (name : String) (node : Node) :
    Distinct (put members name node) := by
  unfold Node.put
  split
  · -- The names stay what they are.
    show ((members.map _).map Prod.fst).Nodup
    rw [List.map_map]
    exact h
  · next hnone => exact h.add hnone node

/-- A change after which each name is still given once. -/
def Keeps (change : Change) : Prop :=
  ∀ form members later, change form members = some later → Distinct members → Distinct later

theorem keeps_openTable (name : String) : Keeps (openTable name) := by
  intro form members later hlater hmembers
  unfold openTable at hlater
  split at hlater
  · obtain rfl := Option.some.inj hlater
    exact distinct_put hmembers _ _
  · obtain rfl := Option.some.inj hlater
    exact distinct_put hmembers _ _
  · cases hlater

theorem keeps_addTable (name : String) : Keeps (addTable name) := by
  intro form members later hlater hmembers
  unfold addTable at hlater
  split at hlater
  · obtain rfl := Option.some.inj hlater
    exact distinct_put hmembers _ _
  · obtain rfl := Option.some.inj hlater
    exact distinct_put hmembers _ _
  · cases hlater

theorem keeps_addMember (plain : Bool) (name : String) (v : Toml) :
    Keeps (addMember plain name v) := by
  intro form members later hlater hmembers
  unfold addMember at hlater
  split at hlater
  · cases hlater
  · split at hlater
    · cases hlater
    · next hnone =>
      obtain rfl := Option.some.inj hlater
      exact hmembers.add hnone _

/-- Further down a table, a change puts back one member of the table itself. -/
theorem keeps_descend (made : Form) (hchange : Keeps change) (path : List String) :
    Keeps (descend made change path) := by
  intro form members later hlater hmembers
  cases path with
  | nil => exact hchange form members later hlater hmembers
  | cons name rest =>
    unfold descend at hlater
    split at hlater
    · obtain ⟨inner, -, rfl⟩ := Option.map_eq_some_iff.mp hlater
      exact distinct_put hmembers _ _
    · split at hlater
      · cases hlater
      · obtain ⟨inner, -, rfl⟩ := Option.map_eq_some_iff.mp hlater
        exact distinct_put hmembers _ _
    · obtain ⟨last, -, hlater⟩ := Option.bind_eq_some_iff.mp hlater
      obtain ⟨inner, -, hlater⟩ := Option.bind_eq_some_iff.mp hlater
      obtain rfl := Option.some.inj hlater
      exact distinct_put hmembers _ _
    · cases hlater

theorem keeps_assign (path : List String) (v : Toml) : Keeps (assign path v) := by
  intro form members later hlater hmembers
  obtain ⟨last, -, hlater⟩ := Option.bind_eq_some_iff.mp hlater
  have hadd : Keeps (addMember (path.length == 1) last v) := keeps_addMember _ last v
  exact keeps_descend .pointed hadd path.dropLast form members later hlater hmembers

theorem names_finishMembers (members : Members) :
    (finishMembers members).map Prod.fst = members.map Prod.fst := by
  induction members with
  | nil => rfl
  | cons m rest ih =>
    obtain ⟨name, node⟩ := m
    rw [finishMembers, List.map_cons, List.map_cons, ih]

end Node

/-! ### Lines -/

section
variable {p q : Progress} {path : List String}

theorem Progress.distinct_enter {isElement : Bool} (h : p.enter path isElement = some q)
    (hp : Distinct p.members) : Distinct q.members := by
  obtain ⟨last, -, h⟩ := Option.bind_eq_some_iff.mp h
  obtain ⟨members, hmembers, h⟩ := Option.bind_eq_some_iff.mp h
  obtain rfl := Option.some.inj h
  have hchange : Node.Keeps (if isElement then Node.addTable last else Node.openTable last) := by
    cases isElement
    · exact Node.keeps_openTable last
    · exact Node.keeps_addTable last
  exact Node.keeps_descend .passing hchange path.dropLast .header p.members members hmembers hp

theorem Progress.distinct_assign {v : Toml} (h : p.assign path v = some q)
    (hp : Distinct p.members) : Distinct q.members := by
  obtain ⟨members, hmembers, h⟩ := Option.bind_eq_some_iff.mp h
  obtain rfl := Option.some.inj h
  have hchange : Node.Keeps (Node.assign path v) := Node.keeps_assign path v
  exact Node.keeps_descend .passing hchange p.current .header p.members members hmembers hp

theorem distinct_of_lines {fuel : Nat} {text : List Char} (h : lines fuel p text = some q)
    (hp : Distinct p.members) : Distinct q.members := by
  induction fuel generalizing p text with
  | zero => cases h
  | succ fuel ih =>
    unfold lines at h
    obtain ⟨line, -, h⟩ := Option.bind_eq_some_iff.mp h
    split at h
    · obtain rfl := Option.some.inj h
      exact hp
    · obtain ⟨⟨⟨path, isElement⟩, rest⟩, -, h⟩ := Option.bind_eq_some_iff.mp h
      obtain ⟨p', hp', h⟩ := Option.bind_eq_some_iff.mp h
      split at h
      · exact ih h (Progress.distinct_enter hp' hp)
      · cases h
    · obtain ⟨⟨⟨path, v⟩, rest⟩, -, h⟩ := Option.bind_eq_some_iff.mp h
      obtain ⟨p', hp', h⟩ := Option.bind_eq_some_iff.mp h
      split at h
      · exact ih h (Progress.distinct_assign hp' hp)
      · cases h

end

/-- A document gives each name once. -/
theorem distinct_of_read? {text : String} {table : List (String × Toml)}
    (h : read? text = some table) : Distinct table := by
  obtain ⟨p, hp, h⟩ := Option.bind_eq_some_iff.mp h
  obtain rfl := Option.some.inj h
  have hnone : Distinct (⟨[], []⟩ : Progress).members := List.nodup_nil
  show ((Node.finishMembers p.members).map Prod.fst).Nodup
  rw [Node.names_finishMembers]
  exact distinct_of_lines hp hnone

end DocSync.Toml
