import RegistrySearch.Catalog.NameFields

/-!
# Faithful memos

A memo is asked with one lookup of fields for all of its life. It is faithful if every answer that it keeps is the one that classifying the events anew would give. The empty memo is, and asking keeps it so, whether the answer was there, had to be found, or pushed another one out. So a question to a faithful memo has the answer that needs no memo.
-/

namespace RegistrySearch

namespace Memo

variable {lookup : FieldLookup} {memo : Memo}

def Faithful (lookup : FieldLookup) (memo : Memo) : Prop :=
  ∀ entry ∈ memo.entries, entry.2 = nameFieldIds lookup entry.1

theorem faithful_empty : empty.Faithful lookup := by
  intro entry hentry
  exact absurd hentry List.not_mem_nil

theorem Faithful.eq_of_find? (h : memo.Faithful lookup) {events : List Event} {ids : List String}
    (hfind : memo.find? events = some ids) : ids = nameFieldIds lookup events := by
  obtain ⟨before, after, hentries, -⟩ := List.lookup_eq_some_iff.1 hfind
  apply h (events, ids)
  rw [hentries]
  exact List.mem_append_right _ List.mem_cons_self

theorem Faithful.touch (h : memo.Faithful lookup) (events : List Event) :
    (memo.touch events (nameFieldIds lookup events)).Faithful lookup := by
  intro entry hentry
  rcases List.mem_cons.1 hentry with rfl | hentry
  · rfl
  · exact h entry (List.mem_filter.1 hentry).1

theorem Faithful.insert (h : memo.Faithful lookup) (events : List Event) :
    (memo.insert events (nameFieldIds lookup events)).Faithful lookup := by
  intro entry hentry
  rcases List.mem_cons.1 (List.mem_of_mem_take hentry) with rfl | hentry
  · rfl
  · exact h entry hentry

theorem Faithful.ask_fst (h : memo.Faithful lookup) (events : List Event) :
    (memo.ask (nameFieldIds lookup) events).1 = nameFieldIds lookup events := by
  unfold ask
  cases hfind : memo.find? events with
  | none => rfl
  | some ids => exact h.eq_of_find? hfind

theorem Faithful.ask_snd (h : memo.Faithful lookup) (events : List Event) :
    (memo.ask (nameFieldIds lookup) events).2.Faithful lookup := by
  unfold ask
  cases hfind : memo.find? events with
  | none => exact h.insert events
  | some ids =>
      rw [h.eq_of_find? hfind]
      exact h.touch events

/-- The memo after questions about the events of some catalogs, asked since it was empty. -/
def asked (lookup : FieldLookup) (earlier : List (List Event)) : Memo :=
  earlier.foldl (fun memo events => (memo.ask (nameFieldIds lookup) events).2) empty

theorem faithful_asked (lookup : FieldLookup) (earlier : List (List Event)) :
    (asked lookup earlier).Faithful lookup :=
  List.foldlRecOn earlier _ faithful_empty fun _ h events _ => h.ask_snd events

end Memo

end RegistrySearch
