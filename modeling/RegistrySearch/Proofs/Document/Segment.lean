import Mathlib.Data.Set.Function
import RegistrySearch.Proofs.Document.FieldId

/-!
# Segments and the ids they stand for

A segment is any text without dots. Reading one from left to right gives an id with a dot for each separator that is found, and encoding the id puts these separators back, so no segment is lost. The id is safe: had it a separator left, the reading would have found it, and had it an underscore before one of the new dots, the reading would have found a separator one place earlier.

So encoding and decoding match the safe ids with the segments, and an id that is not safe never comes back (`FieldId.codes_safe_ids`).
-/

namespace RegistrySearch

namespace FieldId

variable {segment : List Char}

/-- A segment is read from left to right: a separator where there is one, and otherwise one character. -/
@[elab_as_elim]
theorem readInduction {P : List Char → Prop} (nil : P [])
    (found : ∀ rest, P rest → P (separator ++ rest))
    (other : ∀ c rest, ¬ separator <+: c :: rest → P rest → P (c :: rest)) (segment : List Char) : P segment := by
  induction segment using decodeChars.induct with
  | case1 rest ih => exact found rest ih
  | case2 c rest hother ih =>
      refine other c rest (fun hfound => ?_) ih
      obtain ⟨hc, tail, htail⟩ := List.cons_prefix_cons.1 hfound
      exact hother tail hc.symm htail.symm
  | case3 => exact nil

/-! ### From a segment to its id and back -/

theorem encodeChars_decodeChars (h : '.' ∉ segment) : encodeChars (decodeChars segment) = segment := by
  induction segment using readInduction with
  | nil => rfl
  | found rest ih =>
      have hrest : '.' ∉ rest := fun hmem => h (List.mem_append_right separator hmem)
      rw [decodeChars_separator_append, encodeChars_cons_dot, ih hrest]
  | other c rest hother ih =>
      have hc : c ≠ '.' := fun hc => h (hc ▸ List.mem_cons_self)
      have hrest : '.' ∉ rest := fun hmem => h (List.mem_cons_of_mem c hmem)
      rw [decodeChars_cons hother, encodeChars_cons hc, ih hrest]

theorem toList_decode (segment : String) : (decode segment).toList = decodeChars segment.toList :=
  String.toList_ofList

theorem encode_decode_iff {segment : String} : encode (decode segment) = segment ↔ '.' ∉ segment.toList := by
  rw [← String.toList_inj, toList_encode, toList_decode]
  constructor
  · intro h
    rw [← h]
    exact dot_not_mem_encodeChars _
  · exact encodeChars_decodeChars

/-! ### The ids of segments are safe -/

/-- Underscores in front of an id are underscores of its segment; none of them comes from a separator. -/
theorem replicate_isPrefix_of_decodeChars {n : Nat} (h : List.replicate n '_' <+: decodeChars segment) :
    List.replicate n '_' <+: segment := by
  induction segment using readInduction generalizing n with
  | nil => exact h
  | found rest ih =>
      cases n with
      | zero => exact List.nil_prefix
      | succ n =>
          rw [decodeChars_separator_append, List.replicate_succ, List.cons_prefix_cons] at h
          exact absurd h.1 (by decide)
  | other c rest hother ih =>
      cases n with
      | zero => exact List.nil_prefix
      | succ n =>
          rw [decodeChars_cons hother, List.replicate_succ, List.cons_prefix_cons] at h
          rw [List.replicate_succ, List.cons_prefix_cons]
          exact h.imp_right ih

/-- A dot in front of the id of a segment comes from a separator. -/
theorem separator_isPrefix_of_decodeChars {id : List Char} (h : '.' ∉ segment) (hid : decodeChars segment = '.' :: id) :
    separator <+: segment := by
  cases segment with
  | nil => cases hid
  | cons c rest =>
      by_contra hother
      rw [decodeChars_cons hother, List.cons.injEq] at hid
      exact h (hid.1 ▸ List.mem_cons_self)

theorem not_separator_isInfix_decodeChars (segment : List Char) : ¬ separator <:+: decodeChars segment := by
  induction segment using readInduction with
  | nil => decide
  | found rest ih =>
      intro h
      rcases List.infix_cons_iff.1 h with hfirst | hrest
      · exact absurd (List.cons_prefix_cons.1 hfirst).1 (by decide)
      · exact ih hrest
  | other c rest hother ih =>
      intro h
      rw [decodeChars_cons hother, List.infix_cons_iff] at h
      rcases h with hfirst | hrest
      · obtain ⟨hc, hfollowing⟩ := List.cons_prefix_cons.1 hfirst
        have hunderscores : List.replicate 3 '_' <+: rest := replicate_isPrefix_of_decodeChars hfollowing
        exact hother (List.cons_prefix_cons.2 ⟨hc, hunderscores⟩)
      · exact ih hrest

theorem not_underscore_dot_isInfix_decodeChars (h : '.' ∉ segment) : ¬ ['_', '.'] <:+: decodeChars segment := by
  induction segment using readInduction with
  | nil => decide
  | found rest ih =>
      have hrest : '.' ∉ rest := fun hmem => h (List.mem_append_right separator hmem)
      intro hinfix
      rcases List.infix_cons_iff.1 hinfix with hfirst | hlater
      · exact absurd (List.cons_prefix_cons.1 hfirst).1 (by decide)
      · exact ih hrest hlater
  | other c rest hother ih =>
      have hrest : '.' ∉ rest := fun hmem => h (List.mem_cons_of_mem c hmem)
      intro hinfix
      rw [decodeChars_cons hother, List.infix_cons_iff] at hinfix
      rcases hinfix with hfirst | hlater
      · -- The underscore and the separator of the dot are five underscores, so a separator begins with the first of them.
        obtain ⟨rfl, id, hid⟩ := List.cons_prefix_cons.1 hfirst
        obtain ⟨tail, rfl⟩ := separator_isPrefix_of_decodeChars hrest hid.symm
        exact hother (List.prefix_append separator ('_' :: tail))
      · exact ih hrest hlater

theorem safeChars_decodeChars (h : '.' ∉ segment) : SafeChars (decodeChars segment) :=
  ⟨not_separator_isInfix_decodeChars segment, not_underscore_dot_isInfix_decodeChars h⟩

theorem safe_decode {segment : String} (h : '.' ∉ segment.toList) : Safe (decode segment) := by
  rw [Safe, toList_decode]
  exact safeChars_decodeChars h

theorem dot_not_mem_encode (id : String) : '.' ∉ (encode id).toList := by
  rw [toList_encode]
  exact dot_not_mem_encodeChars id.toList

theorem decode_encode_iff {id : String} : decode (encode id) = id ↔ Safe id := by
  constructor
  · intro h
    rw [← h]
    exact safe_decode (dot_not_mem_encode id)
  · exact decode_encode

/-! ### The correspondence -/

/-- Encoding gives segments, and loses nothing of exactly the safe ids; decoding loses nothing of exactly the segments, and gives safe ids. So the safe ids and the segments correspond, each to one of the others. -/
theorem codes_safe_ids :
    (∀ id, '.' ∉ (encode id).toList ∧ (decode (encode id) = id ↔ Safe id))
      ∧ (∀ segment, (encode (decode segment) = segment ↔ '.' ∉ segment.toList)
        ∧ ('.' ∉ segment.toList → Safe (decode segment)))
      ∧ Set.BijOn encode {id | Safe id} {segment | '.' ∉ segment.toList}
      ∧ Set.InvOn decode encode {id | Safe id} {segment | '.' ∉ segment.toList} := by
  have hinverse : Set.InvOn decode encode {id | Safe id} {segment | '.' ∉ segment.toList} :=
    ⟨fun _ hid => decode_encode_iff.2 hid, fun _ hsegment => encode_decode_iff.2 hsegment⟩
  refine ⟨fun id => ⟨dot_not_mem_encode id, decode_encode_iff⟩, fun segment => ⟨encode_decode_iff, safe_decode⟩, ?_, hinverse⟩
  exact hinverse.bijOn (fun id _ => dot_not_mem_encode id) fun _ hsegment => safe_decode hsegment

/-- Five underscores are a separator and one more, so the id gets its dot back on the wrong side. -/
example : decode (encode "child_.dob") = "child._dob" := by decide +kernel

end FieldId

end RegistrySearch
