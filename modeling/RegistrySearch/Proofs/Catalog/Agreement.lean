import RegistrySearch.Catalog.Payload
import RegistrySearch.Proofs.Json.Draft
import RegistrySearch.Proofs.Json.TextFaults

/-!
# Checks of a text and of its value

A complete text and its value differ in the width of integers only, and no place of a catalog takes an integer. So a check accepts both with the same result or reports a misplaced value for both; the reports may differ, since a wide integer is told as a number of another kind. That each check agrees in this way (`Draft.Agrees`) is shown for the readers of single values, is kept by lists and objects, and so holds for all parts of a catalog.
-/

namespace RegistrySearch

namespace Draft

/-- Both end well with the same result, or both with a misplaced value. -/
def Agree {α : Type} (first second : Outcome α) : Prop :=
  (∃ x, first = .ok x ∧ second = .ok x)
    ∨ ∃ fault other, first = .error (.invalid fault) ∧ second = .error (.invalid other)

namespace Agree

variable {α β : Type} {first second : Outcome α}

theorem ok (x : α) : Agree (.ok x) (.ok x) := .inl ⟨x, rfl, rfl⟩

theorem invalid (fault other : Fault) : Agree (.error (.invalid fault) : Outcome α) (.error (.invalid other)) :=
  .inr ⟨fault, other, rfl, rfl⟩

theorem bind (h : Agree first second) {next other : α → Outcome β} (hnext : ∀ x, Agree (next x) (other x)) :
    Agree (first >>= next) (second >>= other) := by
  rcases h with ⟨x, rfl, rfl⟩ | ⟨fault, fault', rfl, rfl⟩
  · exact hnext x
  · exact invalid fault fault'

theorem map (h : Agree first second) (f : α → β) : Agree (f <$> first) (f <$> second) := by
  rcases h with ⟨x, rfl, rfl⟩ | ⟨fault, other, rfl, rfl⟩
  · exact ok (f x)
  · exact invalid fault other

theorem check (h : Agree first second) : Agree (first *> .ok ()) (second *> .ok ()) := by
  rcases h with ⟨x, rfl, rfl⟩ | ⟨fault, other, rfl, rfl⟩
  · exact ok ()
  · exact invalid fault other

theorem under (h : Agree first second) (step : Step) : Agree (under step first) (under step second) := by
  rcases h with ⟨x, rfl, rfl⟩ | ⟨fault, other, rfl, rfl⟩
  · exact ok x
  · exact invalid (fault.within step) (other.within step)

end Agree

/-- The check ends alike for a complete text, with its integers as they are and as ones that fit. -/
def Agrees {α : Type} (read : Draft → Outcome α) : Prop :=
  ∀ d, d.faults = [] → Agree (read d) (read d.narrow)

/-- The same for what is looked up in the members of an object. -/
def AgreesOnMembers {α : Type} (build : List (Option String × Draft) → Outcome α) : Prop :=
  ∀ members, memberFaults members = [] → Agree (build members) (build (narrowMembers members))

/-! ### Complete texts -/

variable {α β : Type}

theorem closed_of_openFaults {closed : Bool} (h : openFaults closed = []) : closed = true := by
  cases closed with
  | true => rfl
  | false => cases h

theorem faults_arr {items : List Draft} {closed : Bool} (h : (arr items closed).faults = []) :
    itemFaults items = [] ∧ closed = true := by
  rw [faults, List.append_eq_nil_iff] at h
  exact ⟨h.1, closed_of_openFaults h.2⟩

theorem faults_obj {members : List (Option String × Draft)} {closed : Bool} (h : (obj members closed).faults = []) :
    memberFaults members = [] ∧ closed = true := by
  rw [faults, List.append_eq_nil_iff] at h
  exact ⟨h.1, closed_of_openFaults h.2⟩

theorem itemFaults_cons {item : Draft} {rest : List Draft} (h : itemFaults (item :: rest) = []) :
    item.faults = [] ∧ itemFaults rest = [] := by
  rw [itemFaults] at h
  exact List.append_eq_nil_iff.1 h

theorem memberFaults_cons {member : Option String × Draft} {rest : List (Option String × Draft)}
    (h : memberFaults (member :: rest) = []) :
    (∃ key, member.1 = some key) ∧ member.2.faults = [] ∧ memberFaults rest = [] := by
  obtain ⟨key, d⟩ := member
  cases key with
  | none => cases h
  | some key =>
      rw [memberFaults] at h
      exact ⟨⟨key, rfl⟩, List.append_eq_nil_iff.1 h⟩

mutual

theorem skip_of_faults : (d : Draft) → d.faults = [] → d.skip = .ok () ∧ d.narrow.skip = .ok ()
  | null, _ => ⟨rfl, rfl⟩
  | bool _, _ => ⟨rfl, rfl⟩
  | int _, _ => ⟨rfl, rfl⟩
  | wideInt _, _ => ⟨rfl, rfl⟩
  | float _, _ => ⟨rfl, rfl⟩
  | str _, _ => ⟨rfl, rfl⟩
  | brokenString, h => by cases h
  | broken, h => by cases h
  | arr items closed, h => by
      obtain ⟨hitems, rfl⟩ := faults_arr h
      obtain ⟨hskip, hnarrow⟩ := skipItems_of_faults items hitems
      rw [narrow, skip, skip, hskip, hnarrow]
      exact ⟨rfl, rfl⟩
  | obj members closed, h => by
      obtain ⟨hmembers, rfl⟩ := faults_obj h
      obtain ⟨hskip, hnarrow⟩ := skipMembers_of_faults members hmembers
      rw [narrow, skip, skip, hskip, hnarrow]
      exact ⟨rfl, rfl⟩

theorem skipItems_of_faults : (items : List Draft) → itemFaults items = [] →
    skipItems items = .ok () ∧ skipItems (narrowItems items) = .ok ()
  | [], _ => ⟨rfl, rfl⟩
  | item :: rest, h => by
      obtain ⟨hitem, hrest⟩ := itemFaults_cons h
      obtain ⟨hskip, hnarrow⟩ := skip_of_faults item hitem
      rw [narrowItems, skipItems, skipItems, hskip, hnarrow]
      exact skipItems_of_faults rest hrest

theorem skipMembers_of_faults : (members : List (Option String × Draft)) → memberFaults members = [] →
    skipMembers members = .ok () ∧ skipMembers (narrowMembers members) = .ok ()
  | [], _ => ⟨rfl, rfl⟩
  | (key, d) :: rest, h => by
      obtain ⟨-, hd, hrest⟩ := memberFaults_cons h
      obtain ⟨hskip, hnarrow⟩ := skip_of_faults d hd
      rw [narrowMembers, skipMembers, skipMembers, hskip, hnarrow]
      exact skipMembers_of_faults rest hrest

end

/-! ### Single values -/

theorem agrees_ignore : Agrees ignore := by
  intro d h
  obtain ⟨hskip, hnarrow⟩ := skip_of_faults d h
  rw [ignore, ignore, hskip, hnarrow]
  exact .ok ()

theorem agree_misplaced (expected : Expectation) {d : Draft} (h : d.faults = []) :
    Agree (.error (d.misplaced expected) : Outcome α) (.error (d.narrow.misplaced expected)) := by
  cases d with
  | brokenString => cases h
  | broken => cases h
  | _ => exact .invalid ..

theorem agrees_textFor (expected : Expectation) : Agrees (textFor expected) := by
  intro d h
  cases d with
  | str content =>
      cases content with
      | none => cases h
      | some s => exact .ok s
  | _ => exact agree_misplaced expected h

theorem agrees_asText : Agrees asText :=
  agrees_textFor .text

theorem agrees_asTextOrNull : Agrees asTextOrNull := by
  intro d h
  cases d with
  | null => exact .ok none
  | _ => exact (agrees_textFor .textOrNull _ h).map some

theorem agrees_asFlag : Agrees asFlag := by
  intro d h
  cases d with
  | bool b => exact .ok b
  | _ => exact agree_misplaced .flag h

theorem agrees_asFieldKind : Agrees asFieldKind := by
  intro d h
  refine (agrees_asText d h).bind fun label => ?_
  split
  · exact .ok _
  · exact .invalid ..

/-! ### Lists -/

theorem agree_itemsFrom {item : Draft → Outcome α} (hitem : Agrees item) {items : List Draft}
    (h : itemFaults items = []) (index : Nat) :
    Agree (itemsFrom item index items) (itemsFrom item index (narrowItems items)) := by
  induction items generalizing index with
  | nil => exact .ok []
  | cons d rest ih =>
      obtain ⟨hd, hrest⟩ := itemFaults_cons h
      refine ((hitem d hd).under (.item index)).bind fun x => ?_
      exact (ih hrest (index + 1)).bind fun xs => .ok (x :: xs)

theorem agrees_asList {item : Draft → Outcome α} (hitem : Agrees item) : Agrees (asList item) := by
  intro d h
  cases d with
  | arr items closed =>
      obtain ⟨hitems, rfl⟩ := faults_arr h
      exact (agree_itemsFrom hitem hitems 0).bind fun xs => .ok xs
  | _ => exact agree_misplaced .list h

/-! ### Objects -/

theorem agree_checkMembers {member : String → Draft → Outcome Unit} (hmember : ∀ key, Agrees (member key))
    {members : List (Option String × Draft)} (h : memberFaults members = []) :
    Agree (checkMembers member members) (checkMembers member (narrowMembers members)) := by
  induction members with
  | nil => exact .ok ()
  | cons first rest ih =>
      obtain ⟨key, d⟩ := first
      obtain ⟨⟨name, rfl⟩, hd, hrest⟩ := memberFaults_cons h
      exact ((hmember name d hd).under (.member name)).bind fun _ => ih hrest

theorem narrowMembers_eq_map (members : List (Option String × Draft)) :
    narrowMembers members = members.map fun member => (member.1, member.2.narrow) := by
  induction members with
  | nil => rfl
  | cons member rest ih => rw [narrowMembers, ih, List.map_cons]

theorem lookup_narrowMembers (members : List (Option String × Draft)) (key : Option String) :
    (narrowMembers members).lookup key = (members.lookup key).map narrow := by
  induction members with
  | nil => rfl
  | cons member rest ih =>
      rw [narrowMembers, List.lookup_cons, List.lookup_cons, ih]
      split <;> rfl

theorem last?_narrowMembers (members : List (Option String × Draft)) (key : String) :
    last? (narrowMembers members) key = (last? members key).map narrow := by
  rw [last?, last?, ← lookup_narrowMembers, narrowMembers_eq_map, narrowMembers_eq_map, List.map_reverse]

theorem faults_of_mem {members : List (Option String × Draft)} (h : memberFaults members = [])
    {member : Option String × Draft} (hmem : member ∈ members) : member.2.faults = [] := by
  induction members with
  | nil => exact absurd hmem List.not_mem_nil
  | cons first rest ih =>
      obtain ⟨-, hfirst, hrest⟩ := memberFaults_cons h
      rcases List.mem_cons.1 hmem with rfl | hmem
      · exact hfirst
      · exact ih hrest hmem

theorem faults_of_last? {members : List (Option String × Draft)} (h : memberFaults members = []) {key : String}
    {d : Draft} (hlast : last? members key = some d) : d.faults = [] := by
  obtain ⟨before, after, hmembers, -⟩ := List.lookup_eq_some_iff.1 hlast
  have hmem : (some key, d) ∈ members.reverse := by
    rw [hmembers]
    exact List.mem_append_right _ List.mem_cons_self
  exact faults_of_mem h (List.mem_reverse.1 hmem)

theorem agreesOn_required {read : Draft → Outcome α} (hread : Agrees read) (key : String) :
    AgreesOnMembers (required read · key) := by
  intro members h
  dsimp only [required]
  rw [last?_narrowMembers]
  cases hlast : last? members key with
  | none => exact .invalid ..
  | some d => exact (hread d (faults_of_last? h hlast)).under (.member key)

theorem agreesOn_withDefault {read : Draft → Outcome α} (hread : Agrees read) (default : α) (key : String) :
    AgreesOnMembers (withDefault default read · key) := by
  intro members h
  dsimp only [withDefault]
  rw [last?_narrowMembers]
  cases hlast : last? members key with
  | none => exact .ok default
  | some d => exact (hread d (faults_of_last? h hlast)).under (.member key)

theorem AgreesOnMembers.bind {first : List (Option String × Draft) → Outcome α}
    {next : List (Option String × Draft) → α → Outcome β} (hfirst : AgreesOnMembers first)
    (hnext : ∀ x, AgreesOnMembers (next · x)) : AgreesOnMembers fun members => first members >>= next members :=
  fun members h => (hfirst members h).bind fun x => hnext x members h

theorem agreesOn_pure (x : α) : AgreesOnMembers fun _ => pure x :=
  fun _ _ => .ok x

theorem agrees_asObject {member : String → Draft → Outcome Unit} {build : List (Option String × Draft) → Outcome α}
    (hmember : ∀ key, Agrees (member key)) (hbuild : AgreesOnMembers build) : Agrees (asObject member build) := by
  intro d h
  cases d with
  | obj members closed =>
      obtain ⟨hmembers, rfl⟩ := faults_obj h
      exact (agree_checkMembers hmember hmembers).bind fun _ => hbuild members hmembers
  | _ => exact agree_misplaced .map h

theorem Agrees.check {read : Draft → Outcome α} (hread : Agrees read) : Agrees fun d => read d *> .ok () :=
  fun d h => (hread d h).check

/-! ### The parts of a catalog -/

theorem agrees_fieldMember (key : String) : Agrees (fieldMember key) := by
  unfold fieldMember
  split
  · exact agrees_asText.check
  · exact agrees_asFieldKind.check
  · exact agrees_asTextOrNull.check
  · exact agrees_asFlag.check
  · exact agrees_ignore

theorem agrees_asField : Agrees asField :=
  agrees_asObject agrees_fieldMember <|
    (agreesOn_required agrees_asText "id").bind fun _ => (agreesOn_required agrees_asFieldKind "type").bind fun _ =>
    (agreesOn_withDefault agrees_asTextOrNull none "label").bind fun _ =>
    (agreesOn_withDefault agrees_asFlag false "required").bind fun _ => agreesOn_pure _

theorem agrees_fields : Agrees (asList asField) :=
  agrees_asList agrees_asField

theorem agrees_pageMember (key : String) : Agrees (pageMember key) := by
  unfold pageMember
  split
  · exact agrees_asText.check
  · exact agrees_asTextOrNull.check
  · exact agrees_fields.check
  · exact agrees_ignore

theorem agrees_asPage : Agrees asPage :=
  agrees_asObject agrees_pageMember <|
    (agreesOn_required agrees_asText "id").bind fun _ =>
    (agreesOn_withDefault agrees_asTextOrNull none "title").bind fun _ =>
    (agreesOn_withDefault agrees_fields [] "fields").bind fun _ => agreesOn_pure _

theorem agrees_declarationMember (key : String) : Agrees (declarationMember key) := by
  unfold declarationMember
  split
  · exact (agrees_asList agrees_asPage).check
  · exact agrees_ignore

theorem agrees_asDeclaration : Agrees asDeclaration :=
  agrees_asObject agrees_declarationMember (agreesOn_withDefault (agrees_asList agrees_asPage) [] "pages")

theorem agrees_actionMember (key : String) : Agrees (actionMember key) := by
  unfold actionMember
  split
  · exact agrees_asText.check
  · exact agrees_asTextOrNull.check
  · exact agrees_fields.check
  · exact agrees_ignore

theorem agrees_asAction : Agrees asAction :=
  agrees_asObject agrees_actionMember <|
    (agreesOn_required agrees_asText "type").bind fun _ =>
    (agreesOn_withDefault agrees_asTextOrNull none "label").bind fun _ =>
    (agreesOn_withDefault agrees_fields [] "fields").bind fun _ => agreesOn_pure _

theorem agrees_eventMember (key : String) : Agrees (eventMember key) := by
  unfold eventMember
  split
  · exact agrees_asText.check
  · exact agrees_asTextOrNull.check
  · exact agrees_asDeclaration.check
  · exact (agrees_asList agrees_asAction).check
  · exact agrees_ignore

theorem agrees_asEvent : Agrees asEvent :=
  agrees_asObject agrees_eventMember <|
    (agreesOn_required agrees_asText "id").bind fun _ =>
    (agreesOn_withDefault agrees_asTextOrNull none "label").bind fun _ =>
    (agreesOn_withDefault agrees_asDeclaration [] "declaration").bind fun _ =>
    (agreesOn_withDefault (agrees_asList agrees_asAction) [] "actions").bind fun _ => agreesOn_pure _

theorem agrees_asEvents : Agrees asEvents :=
  agrees_asList agrees_asEvent

end Draft

end RegistrySearch
