import Mathlib.Data.List.Infix
import Mathlib.Logic.Relation
import RegistrySearch.Document.FieldId

/-!
# Field ids and their segments

The segment of a field id has no dots, so it stays one segment of an index path. Decoding takes separators from left to right wherever it finds four underscores in a row. It gives an id back if no separator is found that was not put there for a dot, and none is found too early: the id must have no separator of its own, and no underscore right before a dot, which would be taken for the first of a separator (`FieldId.decode_encode`).

For the same reason some ids share a segment. They are the ids that turn into each other when dots are written as separators and separators as dots (`FieldId.encode_eq_iff`), and no two of them are safe.
-/

namespace RegistrySearch

namespace FieldId

/-! ### Encoding -/

theorem encodeChars_cons_dot (id : List Char) : encodeChars ('.' :: id) = separator ++ encodeChars id := rfl

theorem encodeChars_cons {c : Char} (hc : c ≠ '.') (id : List Char) :
    encodeChars (c :: id) = c :: encodeChars id := by
  rw [encodeChars, List.flatMap_cons, if_neg hc]
  rfl

theorem dot_not_mem_encodeChars (id : List Char) : '.' ∉ encodeChars id := by
  induction id with
  | nil => exact List.not_mem_nil
  | cons c id ih =>
      by_cases hc : c = '.'
      · rw [hc, encodeChars_cons_dot, List.mem_append, not_or]
        exact ⟨by decide, ih⟩
      · rw [encodeChars_cons hc, List.mem_cons, not_or]
        exact ⟨fun h => hc h.symm, ih⟩

theorem ne_dot_of_mem_encodeChars {id : List Char} {c : Char} (hc : c ∈ encodeChars id) : c ≠ '.' := by
  intro h
  exact dot_not_mem_encodeChars id (h ▸ hc)

theorem toList_encode (id : String) : (encode id).toList = encodeChars id.toList :=
  String.toList_ofList

/-! ### Decoding -/

theorem decodeChars_separator_append (rest : List Char) : decodeChars (separator ++ rest) = '.' :: decodeChars rest :=
  rfl

theorem decodeChars_cons {c : Char} {rest : List Char} (h : ¬ separator <+: c :: rest) :
    decodeChars (c :: rest) = c :: decodeChars rest := by
  rw [decodeChars]
  intro other hc hrest
  subst hc
  subst hrest
  exact h ⟨other, rfl⟩

/-! ### Safe ids -/

def SafeChars (id : List Char) : Prop :=
  ¬ separator <:+: id ∧ ¬ ['_', '.'] <:+: id

/-- The id has neither a separator nor an underscore right before a dot. -/
def Safe (id : String) : Prop :=
  SafeChars id.toList

instance (id : String) : Decidable (Safe id) :=
  inferInstanceAs (Decidable (¬ separator <:+: id.toList ∧ ¬ ['_', '.'] <:+: id.toList))

theorem SafeChars.tail {c : Char} {id : List Char} (h : SafeChars (c :: id)) : SafeChars id :=
  ⟨fun hid => h.1 (List.infix_cons hid), fun hid => h.2 (List.infix_cons hid)⟩

/-- After an underscore, the underscores that a safe id is encoded with are its own. -/
theorem SafeChars.replicate_isPrefix {id : List Char} (h : SafeChars ('_' :: id)) {n : Nat}
    (hn : List.replicate n '_' <+: encodeChars id) : List.replicate n '_' <+: id := by
  -- By induction on the underscores, the id growing shorter with them: the hypothesis is again that of an underscore before it.
  induction n generalizing id with
  | zero => exact List.nil_prefix
  | succ n ih =>
      cases id with
      | nil => exact hn
      | cons c id =>
          have hc : c ≠ '.' := by
            intro hc
            subst hc
            exact h.2 (List.prefix_append ['_', '.'] id).isInfix
          rw [List.replicate_succ, encodeChars_cons hc, List.cons_prefix_cons] at hn
          obtain ⟨rfl, hn⟩ := hn
          rw [List.replicate_succ, List.cons_prefix_cons]
          exact ⟨rfl, ih h.tail hn⟩

theorem SafeChars.not_isPrefix {c : Char} {id : List Char} (h : SafeChars (c :: id)) :
    ¬ separator <+: c :: encodeChars id := by
  intro hprefix
  obtain ⟨rfl, hrest⟩ := List.cons_prefix_cons.1 hprefix
  have hid : List.replicate 3 '_' <+: id := h.replicate_isPrefix hrest
  exact h.1 (List.cons_prefix_cons.2 ⟨rfl, hid⟩).isInfix

theorem decodeChars_encodeChars {id : List Char} (h : SafeChars id) : decodeChars (encodeChars id) = id := by
  induction id with
  | nil => rfl
  | cons c id ih =>
      by_cases hc : c = '.'
      · rw [hc, encodeChars_cons_dot, decodeChars_separator_append, ih h.tail]
      · rw [encodeChars_cons hc, decodeChars_cons h.not_isPrefix, ih h.tail]

theorem decode_encode {id : String} (h : Safe id) : decode (encode id) = id := by
  rw [decode, toList_encode, decodeChars_encodeChars h, String.ofList_toList]

/-! ### Ids with one segment -/

/-- The second id is the first one with a separator in the place of one of its dots. -/
def DotWritten (id other : String) : Prop :=
  ∃ before after, id = before ++ "." ++ after ∧ other = before ++ "____" ++ after

/-- The ids turn into each other by writing dots as separators and separators as dots. -/
def Respelled : String → String → Prop :=
  Relation.EqvGen DotWritten

theorem encodeChars_append (first second : List Char) :
    encodeChars (first ++ second) = encodeChars first ++ encodeChars second :=
  List.flatMap_append

theorem encode_eq_of_dotWritten {id other : String} (h : DotWritten id other) : encode id = encode other := by
  obtain ⟨before, after, rfl, rfl⟩ := h
  have hdot : encodeChars ".".toList = separator := rfl
  have hseparator : encodeChars "____".toList = separator := rfl
  simp only [encode, String.toList_append, encodeChars_append, hdot, hseparator]

theorem encode_eq_of_respelled {id other : String} (h : Respelled id other) : encode id = encode other := by
  induction h with
  | rel id other hstep => exact encode_eq_of_dotWritten hstep
  | refl id => rfl
  | symm id other _ ih => exact ih.symm
  | trans id other third _ _ hfirst hsecond => exact hfirst.trans hsecond

theorem respelled_encodeChars (before id : List Char) :
    Respelled (String.ofList (before ++ id)) (String.ofList (before ++ encodeChars id)) := by
  -- By induction on what is still to be written; what is written already stands before it.
  induction id generalizing before with
  | nil => exact .refl _
  | cons c id ih =>
      by_cases hc : c = '.'
      · have hstep : DotWritten (String.ofList (before ++ '.' :: id)) (String.ofList (before ++ separator ++ id)) := by
          refine ⟨String.ofList before, String.ofList id, ?_, ?_⟩
          · rw [← String.toList_inj]
            simp
          · rw [← String.toList_inj]
            simp [separator]
        rw [hc, encodeChars_cons_dot, ← List.append_assoc]
        exact .trans _ _ _ (.rel _ _ hstep) (ih (before ++ separator))
      · have hkeep := ih (before ++ [c])
        rw [List.append_assoc, List.append_assoc, List.singleton_append, List.singleton_append] at hkeep
        rw [encodeChars_cons hc]
        exact hkeep

theorem respelled_encode (id : String) : Respelled id (encode id) := by
  have h := respelled_encodeChars [] id.toList
  rwa [List.nil_append, List.nil_append, String.ofList_toList] at h

/-- Two ids have one segment exactly if they are spellings of each other. -/
theorem encode_eq_iff {id other : String} : encode id = encode other ↔ Respelled id other := by
  constructor
  · intro h
    have hother := respelled_encode other
    rw [← h] at hother
    exact .trans _ _ _ (respelled_encode id) (.symm _ _ hother)
  · exact encode_eq_of_respelled

theorem eq_of_respelled {id other : String} (hid : Safe id) (hother : Safe other) (h : Respelled id other) :
    id = other := by
  rw [← decode_encode hid, encode_eq_of_respelled h, decode_encode hother]

end FieldId

end RegistrySearch
