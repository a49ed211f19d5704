import TxClient.Json.Record
import TxClient.Proofs.Json.Members
import TxClient.Proofs.Json.Scalar

/-!
Reading records. A record is read from an object of any spelling as its members say, each of
which changes it in turn; members that the record does not have are passed over. The main
statement is `parse_eq_ok_iff`: what a whole text gives is settled by the members alone.
-/

namespace TxClient.Json

open Text (run_bind_of_ok run_bind_of_error run_get)

variable {α : Type} {shape : Shape α} {means : String → Value → (α → α) → Prop}
  {seen : List String} {record result : α} {blanks spelled rest : List Char} {key : String}
  {value : Value} {members : List (String × Value)} {position : Position} {bound : Nat}

/-- The key belongs to a member that the record has. -/
def Shape.Knows (shape : Shape α) (key : String) : Prop :=
  ∃ field ∈ shape.fields, field.name = key

/-- All members of the record take their values for what they mean. -/
def Shape.Takes (shape : Shape α) (means : String → Value → (α → α) → Prop) : Prop :=
  ∀ field ∈ shape.fields, Json.Takes field.read (means field.name)

/-- How the members of an object change a record, one after the other. No key comes twice, and
what is required has come at the end. -/
inductive Collects (shape : Shape α) (means : String → Value → (α → α) → Prop) :
    List String → α → List (String × Value) → α → Prop where
  | done {seen : List String} {record : α} (hrequired : ∀ name ∈ shape.required, name ∈ seen) :
      Collects shape means seen record [] record
  | unknown {seen : List String} {record result : α} {key : String} {value : Value}
      {members : List (String × Value)} (hkey : ¬ shape.Knows key)
      (hmembers : Collects shape means seen record members result) :
      Collects shape means seen record ((key, value) :: members) result
  | known {seen : List String} {record result : α} {key : String} {value : Value}
      {members : List (String × Value)} {update : α → α} (hkey : shape.Knows key)
      (hnew : key ∉ seen) (hmeans : means key value update)
      (hmembers : Collects shape means (key :: seen) (update record) members result) :
      Collects shape means seen record ((key, value) :: members) result

section Collecting

theorem collects_nil_iff :
    Collects shape means seen record [] result ↔
      (∀ name ∈ shape.required, name ∈ seen) ∧ result = record := by
  constructor
  · rintro ⟨hrequired⟩
    exact ⟨hrequired, rfl⟩
  · rintro ⟨hrequired, rfl⟩
    exact .done hrequired

theorem collects_unknown_iff (hkey : ¬ shape.Knows key) :
    Collects shape means seen record ((key, value) :: members) result ↔
      Collects shape means seen record members result := by
  constructor
  · intro hcollects
    cases hcollects with
    | unknown _ hmembers => exact hmembers
    | known hknown => exact absurd hknown hkey
  · exact .unknown hkey

theorem collects_known_iff (hkey : shape.Knows key) :
    Collects shape means seen record ((key, value) :: members) result ↔
      key ∉ seen ∧ ∃ update, means key value update ∧
        Collects shape means (key :: seen) (update record) members result := by
  constructor
  · intro hcollects
    cases hcollects with
    | unknown hunknown => exact absurd hkey hunknown
    | known _ hnew hmeans hmembers => exact ⟨hnew, _, hmeans, hmembers⟩
  · rintro ⟨hnew, update, hmeans, hmembers⟩
    exact .known hkey hnew hmeans hmembers

/-- A key that has come before does not come again. -/
theorem Collects.not_mem_keys (hcollects : Collects shape means seen record members result)
    (hkey : shape.Knows key) (hseen : key ∈ seen) : key ∉ keys members := by
  induction hcollects with
  | done => exact List.not_mem_nil
  | @unknown seen record result other value members hother _ ih =>
    have hne : key ≠ other := fun hsame => hother (hsame ▸ hkey)
    exact List.not_mem_cons_of_ne_of_not_mem hne (ih hseen)
  | @known seen record result other value members update _ hnew _ _ ih =>
    have hne : key ≠ other := fun hsame => hnew (hsame ▸ hseen)
    exact List.not_mem_cons_of_ne_of_not_mem hne (ih (List.mem_cons_of_mem _ hseen))

/-- A part of a record that is set by the members with one key and by no others. -/
structure Slot {β : Type} (shape : Shape α) (means : String → Value → (α → α) → Prop)
    (name : String) (spells : Value → β → Prop) (get : α → β) : Prop where
  known : shape.Knows name
  own {value : Value} {update : α → α} :
    means name value update → ∃ new, spells value new ∧ ∀ record, get (update record) = new
  other {key : String} {value : Value} {update : α → α} :
    means key value update → key ≠ name → ∀ record, get (update record) = get record

/-- What a record holds is what the members with the key say. -/
theorem Collects.sets {β : Type} {name : String} {spells : Value → β → Prop} {get : α → β}
    (hslot : Slot shape means name spells get)
    (hcollects : Collects shape means seen record members result) :
    Sets name spells (get record) (get result) members := by
  induction hcollects with
  | done => exact (sets_iff_of_not_mem List.not_mem_nil).2 rfl
  | @unknown seen record result key value members hkey _ ih =>
    have hne : key ≠ name := fun hsame => hkey (hsame ▸ hslot.known)
    exact (sets_cons_other_iff hne).2 ih
  | @known seen record result key value members update hkey hnew hmeans hmembers ih =>
    by_cases hsame : key = name
    · subst hsame
      obtain ⟨new, hspells, hget⟩ := hslot.own hmeans
      have hmissing := hmembers.not_mem_keys hkey (List.mem_cons_self ..)
      have hresult := (sets_iff_of_not_mem hmissing).1 ih
      refine sets_cons_iff.2 ⟨hmissing, ?_⟩
      rwa [hresult, hget]
    · rw [hslot.other hmeans hsame] at ih
      exact (sets_cons_other_iff hsame).2 ih

/-- Nothing stands against a record with these members: no key of the record comes twice, the values
with such keys mean something, and what is required comes. -/
structure Collectable (shape : Shape α) (means : String → Value → (α → α) → Prop)
    (seen : List String) (members : List (String × Value)) : Prop where
  once : ∀ key, shape.Knows key → (keys members).count key ≤ 1
  fresh : ∀ key, shape.Knows key → key ∈ seen → key ∉ keys members
  meaningful : ∀ key value, shape.Knows key → (key, value) ∈ members →
    ∃ update, means key value update
  required : ∀ name ∈ shape.required, name ∈ seen ∨ (shape.Knows name ∧ name ∈ keys members)

theorem keys_cons : keys ((key, value) :: members) = key :: keys members := rfl

theorem Collectable.of_cons_unknown (hkey : ¬ shape.Knows key)
    (hcollectable : Collectable shape means seen ((key, value) :: members)) :
    Collectable shape means seen members where
  once other hother := Nat.le_trans (List.count_le_count_cons ..) (hcollectable.once other hother)
  fresh other hother hseen hmem :=
    hcollectable.fresh other hother hseen (List.mem_cons_of_mem _ hmem)
  meaningful other value hother hmem :=
    hcollectable.meaningful other value hother (List.mem_cons_of_mem _ hmem)
  required := by
    intro name hname
    refine (hcollectable.required name hname).imp_right fun ⟨hknown, hmem⟩ => ⟨hknown, ?_⟩
    rw [keys_cons] at hmem
    exact (List.mem_cons.1 hmem).resolve_left fun hsame => hkey (hsame ▸ hknown)

theorem Collectable.of_cons_known (hkey : shape.Knows key)
    (hcollectable : Collectable shape means seen ((key, value) :: members)) :
    Collectable shape means (key :: seen) members where
  once other hother := Nat.le_trans (List.count_le_count_cons ..) (hcollectable.once other hother)
  fresh := by
    intro other hother hseen hmem
    rcases List.mem_cons.1 hseen with rfl | hold
    · have hcount := hcollectable.once other hother
      rw [keys_cons, List.count_cons_self] at hcount
      have hpositive := List.count_pos_iff.2 hmem
      omega
    · exact hcollectable.fresh other hother hold (List.mem_cons_of_mem _ hmem)
  meaningful other value hother hmem :=
    hcollectable.meaningful other value hother (List.mem_cons_of_mem _ hmem)
  required := by
    intro name hname
    rcases hcollectable.required name hname with hseen | ⟨hknown, hmem⟩
    · exact .inl (List.mem_cons_of_mem _ hseen)
    · rcases List.mem_cons.1 hmem with rfl | hmem
      · exact .inl (List.mem_cons_self ..)
      · exact .inr ⟨hknown, hmem⟩

theorem Collectable.exists_collects (hcollectable : Collectable shape means seen members)
    (record : α) : ∃ result, Collects shape means seen record members result := by
  induction members generalizing seen record with
  | nil =>
    refine ⟨record, .done fun name hname => ?_⟩
    exact (hcollectable.required name hname).resolve_right fun hgiven =>
      absurd hgiven.2 List.not_mem_nil
  | cons member members ih =>
    obtain ⟨key, value⟩ := member
    by_cases hkey : shape.Knows key
    · obtain ⟨update, hmeans⟩ := hcollectable.meaningful key value hkey (List.mem_cons_self ..)
      have hnew : key ∉ seen := fun hseen =>
        hcollectable.fresh key hkey hseen (List.mem_cons_self ..)
      obtain ⟨result, hresult⟩ := ih (hcollectable.of_cons_known hkey) (update record)
      exact ⟨result, .known hkey hnew hmeans hresult⟩
    · obtain ⟨result, hresult⟩ := ih (hcollectable.of_cons_unknown hkey) record
      exact ⟨result, .unknown hkey hresult⟩

end Collecting

/-- The reader gives a record in the cases in which the property holds, and stops at one place. -/
def Gives (reader : Reader (Except Fault α)) (start stop : Cursor) (p : α → Prop) : Prop :=
  ∀ record after, reader.run start = .ok (.ok record, after) ↔ p record ∧ after = stop

theorem gives_of_never {reader : Reader (Except Fault α)} {start stop : Cursor} {p : α → Prop}
    (hreader : ∀ record after, reader.run start ≠ .ok (.ok record, after))
    (hp : ∀ record, ¬ p record) : Gives reader start stop p :=
  fun record after => ⟨fun hrun => absurd hrun (hreader record after),
    fun hrecord => absurd hrecord.1 (hp record)⟩

section Member

/-- The record if everything that is required has come. -/
def finish (shape : Shape α) (seen : List String) (record : α) : Reader (Except Fault α) := do
  match shape.required.find? fun name => !seen.contains name with
  | some name => return .error (.missingField name)
  | none => return .ok record

/-- What comes after the key of a member. -/
def readMemberOf (shape : Shape α) (bound : Nat) (seen : List String) (record : α) (key : String) :
    Reader (Except Fault α) := do
  match shape.fields.find? (·.name == key) with
  | none =>
    readColon
    skip
    readMembers shape bound seen record false
  | some field =>
    if seen.contains key then return .error (.duplicateField key)
    readColon
    let update ← field.read
    readMembers shape bound (key :: seen) (update record) false

/-- One member and what comes after it. -/
def readMember (shape : Shape α) (bound : Nat) (seen : List String) (record : α) :
    Reader (Except Fault α) := do
  let _ ← peekToken?
  let key ← readText
  readMemberOf shape bound seen record key

theorem readMembers_close (hblanks : AreBlanks blanks) (first : Bool) :
    (readMembers shape (bound + 1) seen record first).run ⟨blanks ++ '}' :: rest, position⟩ =
      (finish shape seen record).run ⟨'}' :: rest, position.past blanks⟩ := by
  have hmore : (moreMembers first).run ⟨blanks ++ '}' :: rest, position⟩ =
      .ok (false, ⟨'}' :: rest, position.past blanks⟩) := by
    rw [moreMembers, run_bind_of_ok (run_peekToken_cons hblanks rfl)]
    rfl
  rw [readMembers, run_bind_of_ok hmore]
  rfl

theorem readMembers_first {inside : List Char} (hinside : SpellsMembers inside members) :
    (readMembers shape (bound + 1) seen record true).run ⟨inside ++ rest, position⟩ =
      (readMember shape bound seen record).run ⟨inside ++ rest, position⟩ := by
  obtain ⟨blanks, more, hblanks, rfl⟩ := hinside.opens
  have hmore : (moreMembers true).run ⟨blanks ++ '"' :: (more ++ rest), position⟩ =
      .ok (true, ⟨'"' :: (more ++ rest), position.past blanks⟩) := by
    rw [moreMembers, run_bind_of_ok (run_peekToken_cons hblanks rfl)]
    rfl
  rw [List.append_assoc, List.cons_append, readMembers, run_bind_of_ok hmore, readMember,
    run_bind_of_ok (run_peekToken_cons hblanks rfl)]
  rfl

theorem readMembers_comma {others : List Char} (hblanks : AreBlanks blanks)
    (hothers : SpellsMembers others members) :
    (readMembers shape (bound + 1) seen record false).run
        ⟨blanks ++ ',' :: (others ++ rest), position⟩ =
      (readMember shape bound seen record).run
        ⟨others ++ rest, (position.past blanks).after ','⟩ := by
  obtain ⟨before, more, hbefore, rfl⟩ := hothers.opens
  have hmore :
      (moreMembers false).run ⟨blanks ++ ',' :: (before ++ '"' :: (more ++ rest)), position⟩ =
        .ok (true, ⟨'"' :: (more ++ rest),
          ((position.past blanks).after ',').past before⟩) := by
    rw [moreMembers, run_bind_of_ok (run_peekToken_cons hblanks rfl)]
    refine (run_bind_of_ok run_advance _).trans ?_
    rw [run_bind_of_ok (run_peekToken_cons hbefore rfl)]
    rfl
  rw [List.append_assoc, List.cons_append, readMembers, run_bind_of_ok hmore, readMember,
    run_bind_of_ok (run_peekToken_cons hbefore rfl)]
  rfl

theorem finish_gives (means : String → Value → (α → α) → Prop) (cursor : Cursor) :
    Gives (finish shape seen record) cursor cursor (Collects shape means seen record []) := by
  intro result after
  rw [collects_nil_iff, finish]
  cases hmissing : shape.required.find? fun name => !seen.contains name with
  | none =>
    have hrequired : ∀ name ∈ shape.required, name ∈ seen := by
      simpa using hmissing
    constructor
    · intro hrun
      cases hrun
      exact ⟨⟨hrequired, rfl⟩, rfl⟩
    · rintro ⟨⟨-, rfl⟩, rfl⟩
      rfl
  | some name =>
    have hname : name ∉ seen := by
      simpa using List.find?_some hmissing
    constructor
    · intro hrun
      cases hrun
    · rintro ⟨⟨hrequired, -⟩, -⟩
      exact absurd (hrequired name (List.mem_of_find?_eq_some hmissing)) hname

theorem find?_of_knows (hkey : shape.Knows key) :
    ∃ field ∈ shape.fields, field.name = key ∧
      shape.fields.find? (·.name == key) = some field := by
  obtain ⟨field, hmem, hname⟩ := hkey
  cases hfind : shape.fields.find? (·.name == key) with
  | none => exact absurd (beq_iff_eq.2 hname) (List.find?_eq_none.1 hfind field hmem)
  | some found =>
    have hfound : (found.name == key) = true :=
      List.find?_some (p := fun field : Field α => field.name == key) hfind
    exact ⟨found, List.mem_of_find?_eq_some hfind, eq_of_beq hfound, rfl⟩

theorem find?_of_not_knows (hkey : ¬ shape.Knows key) :
    shape.fields.find? (·.name == key) = none := by
  rw [List.find?_eq_none]
  intro field hmem hname
  exact hkey ⟨field, hmem, eq_of_beq hname⟩

variable {name before tail : List Char}

/-- The key of a member has been read up to the blanks in front of the colon. -/
theorem readMember_key (hname : SpellsKey name key) (position : Position) (rest : List Char) :
    ∃ blanks between, AreBlanks blanks ∧ (between.past blanks).after ':' = position.past name ∧
      (readMember shape bound seen record).run ⟨name ++ rest, position⟩ =
        (readMemberOf shape bound seen record key).run ⟨blanks ++ ':' :: rest, between⟩ := by
  obtain ⟨before, text, after, hbefore, htext, hafter, rfl⟩ := hname
  have hread (position : Position) :
      readText.run ⟨text ++ (after ++ ':' :: rest), position⟩ = .ok (key, _) := run_readText htext
  obtain ⟨more, rfl⟩ := htext.opens
  refine ⟨after, (position.past before).past ('"' :: more), hafter, by simp, ?_⟩
  simp only [List.append_assoc, List.cons_append, List.nil_append] at hread ⊢
  rw [readMember, run_bind_of_ok (run_peekToken_cons hbefore rfl), run_bind_of_ok (hread _)]

/-- A member that the record does not have is passed over. -/
theorem readMember_unknown (hname : SpellsKey name key) (hkey : ¬ shape.Knows key)
    (hbefore : AreBlanks before) (hvalue : Spells spelled value) (htail : EndsNumber tail) :
    (readMember shape bound seen record).run ⟨name ++ (before ++ (spelled ++ tail)), position⟩ =
      (readMembers shape bound seen record false).run
        ⟨tail, position.past (name ++ (before ++ spelled))⟩ := by
  obtain ⟨blanks, between, hblanks, hbetween, hrun⟩ := readMember_key hname position
    (before ++ (spelled ++ tail))
  rw [hrun, readMemberOf, find?_of_not_knows hkey]
  refine (run_bind_of_ok (run_readColon hblanks) _).trans ?_
  rw [hbetween, run_bind_of_ok (run_skip hbefore hvalue htail), ← Position.past_append]

theorem readMember_known (hname : SpellsKey name key) {field : Field α}
    (hfind : shape.fields.find? (·.name == key) = some field) (hnew : key ∉ seen) :
    (readMember shape bound seen record).run ⟨name ++ rest, position⟩ =
      (field.read >>= fun update => readMembers shape bound (key :: seen) (update record) false).run
        ⟨rest, position.past name⟩ := by
  obtain ⟨blanks, between, hblanks, hbetween, hrun⟩ := readMember_key hname position rest
  have hcontains : seen.contains key = false := by
    simpa using hnew
  rw [hrun, readMemberOf, hfind]
  simp only [hcontains]
  refine (run_bind_of_ok (run_readColon hblanks) _).trans ?_
  rw [hbetween]

theorem readMember_duplicate (hname : SpellsKey name key) {field : Field α}
    (hfind : shape.fields.find? (·.name == key) = some field) (hseen : key ∈ seen) :
    ∃ after, (readMember shape bound seen record).run ⟨name ++ rest, position⟩ =
      .ok (.error (.duplicateField key), after) := by
  obtain ⟨blanks, between, -, -, hrun⟩ := readMember_key hname position rest
  have hcontains : seen.contains key = true := by
    simpa using hseen
  rw [hrun, readMemberOf, hfind]
  simp only [hcontains, if_true]
  exact ⟨_, rfl⟩

end Member

section Members

variable {name before tail inside : List Char} {stop : Cursor}

/-- A member that the record has is read as it changes the record. A key that has come before, and
a value that means nothing, end the reading. -/
theorem readMember_gives_known (htakes : shape.Takes means) (hkey : shape.Knows key)
    (hname : SpellsKey name key) (hbefore : AreBlanks before) (hvalue : Spells spelled value)
    (htail : EndsNumber tail)
    (hmembers : ∀ seen record, Gives (readMembers shape bound seen record false)
      ⟨tail, position.past (name ++ (before ++ spelled))⟩ stop
      (Collects shape means seen record members)) :
    Gives (readMember shape bound seen record) ⟨name ++ (before ++ (spelled ++ tail)), position⟩
      stop fun result => key ∉ seen ∧ ∃ update, means key value update ∧
        Collects shape means (key :: seen) (update record) members result := by
  obtain ⟨field, hfield, rfl, hfind⟩ := find?_of_knows hkey
  have hreader := htakes field hfield
  by_cases hseen : field.name ∈ seen
  · obtain ⟨last, hrun⟩ : ∃ last, (readMember shape bound seen record).run
        ⟨name ++ (before ++ (spelled ++ tail)), position⟩ = .ok (.error _, last) :=
      readMember_duplicate hname hfind hseen
    refine gives_of_never ?_ fun result hnew => hnew.1 hseen
    intro result after hok
    cases hrun.symm.trans hok
  · rw [Gives, readMember_known hname hfind hseen]
    by_cases hmeant : ∃ update, means field.name value update
    · obtain ⟨update, hupdate⟩ := hmeant
      have hrun : field.read.run ⟨before ++ (spelled ++ tail), position.past name⟩ = _ :=
        hreader.reads hbefore hvalue htail hupdate
      intro result after
      rw [run_bind_of_ok hrun, ← Position.past_append, hmembers]
      constructor
      · rintro ⟨hcollects, rfl⟩
        exact ⟨⟨hseen, update, hupdate, hcollects⟩, rfl⟩
      · rintro ⟨⟨-, other, hother, hcollects⟩, rfl⟩
        cases hrun.symm.trans (hreader.reads hbefore hvalue htail hother)
        exact ⟨hcollects, rfl⟩
    · obtain ⟨error, hrun⟩ : Fails field.read ⟨before ++ (spelled ++ tail), position.past name⟩ :=
        hreader.refuses hbefore hvalue htail fun update hupdate => hmeant ⟨update, hupdate⟩
      refine gives_of_never ?_ fun result hnew => hmeant (hnew.2.imp fun _ => And.left)
      intro result after hok
      rw [run_bind_of_error hrun] at hok
      cases hok

/-- A member is read as it changes the record, if the members after it are. -/
theorem readMember_gives (htakes : shape.Takes means) (hname : SpellsKey name key)
    (hbefore : AreBlanks before) (hvalue : Spells spelled value) (htail : EndsNumber tail)
    (hmembers : ∀ seen record, Gives (readMembers shape bound seen record false)
      ⟨tail, position.past (name ++ (before ++ spelled))⟩ stop
      (Collects shape means seen record members)) :
    Gives (readMember shape bound seen record) ⟨name ++ (before ++ (spelled ++ tail)), position⟩
      stop (Collects shape means seen record ((key, value) :: members)) := by
  intro result after
  by_cases hkey : shape.Knows key
  · rw [collects_known_iff hkey]
    exact readMember_gives_known htakes hkey hname hbefore hvalue htail hmembers result after
  · rw [readMember_unknown hname hkey hbefore hvalue htail, collects_unknown_iff hkey]
    exact hmembers seen record result after

/-- The members of an object are read up to its closing brace. -/
theorem readMember_gives_members (htakes : shape.Takes means)
    (hinside : SpellsMembers inside members) (hbound : members.length ≤ bound) :
    Gives (readMember shape bound seen record) ⟨inside ++ '}' :: rest, position⟩
      ⟨'}' :: rest, position.past inside⟩ (Collects shape means seen record members) := by
  induction members generalizing inside bound seen record position with
  | nil => cases hinside
  | cons member members ih =>
    rw [List.length_cons] at hbound
    obtain ⟨bound, rfl⟩ := Nat.exists_eq_succ_of_ne_zero (Nat.ne_of_gt (Nat.zero_lt_of_lt hbound))
    cases hinside with
    | @last name before spelled after key value hname hbefore hvalue hafter =>
      have htail : EndsNumber (after ++ '}' :: rest) :=
        endsNumber_of_areBlanks hafter (endsNumber_close .object)
      simp only [List.append_assoc, Position.past_append]
      refine readMember_gives htakes hname hbefore hvalue htail fun seen record => ?_
      intro result stop
      rw [readMembers_close hafter, finish_gives means]
      simp
    | @more name before spelled after others key value _ hname hbefore hvalue hafter hothers =>
      have htail : EndsNumber (after ++ ',' :: (others ++ '}' :: rest)) :=
        endsNumber_of_areBlanks hafter endsNumber_comma
      simp only [List.append_assoc, List.cons_append, Position.past_append, Position.past_cons]
      refine readMember_gives htakes hname hbefore hvalue htail fun seen record => ?_
      intro result stop
      rw [readMembers_comma hafter hothers, ih hothers (Nat.le_of_succ_le_succ hbound)]
      simp

/-- Every member takes a character at least. -/
theorem SpellsMembers.length_le (hinside : SpellsMembers inside members) :
    members.length ≤ inside.length := by
  induction members generalizing inside with
  | nil => cases hinside
  | cons member members ih =>
    cases hinside with
    | last hname =>
      obtain ⟨blanks, more, -, rfl⟩ := hname.opens
      simp only [List.length_append, List.length_cons, List.length_nil]
      omega
    | more _ _ _ _ hothers =>
      have hmore := ih hothers
      simp only [List.length_append, List.length_cons]
      omega

/-- The members of an object, its opening brace behind the reader. -/
theorem readMembers_gives (htakes : shape.Takes means) (hinside : SpellsMembers inside members)
    (hbound : members.length < bound) :
    Gives (readMembers shape bound seen record true) ⟨inside ++ '}' :: rest, position⟩
      ⟨'}' :: rest, position.past inside⟩ (Collects shape means seen record members) := by
  obtain ⟨bound, rfl⟩ := Nat.exists_eq_succ_of_ne_zero (Nat.ne_of_gt (Nat.zero_lt_of_lt hbound))
  intro result stop
  rw [readMembers_first hinside]
  exact readMember_gives_members htakes hinside (Nat.le_of_lt_succ hbound) result stop

end Members

/-- No members stand between the braces. -/
theorem readMembers_gives_nil (means : String → Value → (α → α) → Prop)
    (hblanks : AreBlanks blanks) :
    Gives (readMembers shape (bound + 1) seen record true) ⟨blanks ++ '}' :: rest, position⟩
      ⟨'}' :: rest, position.past blanks⟩ (Collects shape means seen record []) := by
  intro result stop
  rw [readMembers_close hblanks]
  exact finish_gives means _ result stop

section Objects

variable {inside : List Char}

theorem failWhole_yields (bracket : Bracket) (fault : Fault) :
    Yields (failWhole bracket fault : Reader α) fun _ => False := by
  refine yields_bind fun next => ?_
  split
  · exact yields_bind fun _ => yields_bind fun _ => yields_throw _
  · exact yields_bind fun _ => yields_throw _

/-- What is made of the members of an object once they are read. -/
def closeObject (members : Reader (Except Fault α)) : Reader α := do
  match ← members with
  | .ok record => do endObject; return record
  | .error fault => failWhole .object fault

theorem run_endObject :
    endObject.run ⟨'}' :: rest, position⟩ = .ok ((), ⟨rest, position.after '}'⟩) := by
  rw [endObject, run_bind_of_ok (run_peekToken_here rfl)]
  rfl

theorem closeObject_iff {members : Reader (Except Fault α)} {start after : Cursor} {p : α → Prop}
    (hgives : Gives members start ⟨'}' :: rest, position⟩ p) :
    (closeObject members).run start = .ok (record, after) ↔
      p record ∧ after = ⟨rest, position.after '}'⟩ := by
  rw [closeObject]
  constructor
  · intro hrun
    cases hmembers : members.run start with
    | error error =>
      rw [run_bind_of_error hmembers] at hrun
      cases hrun
    | ok outcome =>
      rw [run_bind_of_ok hmembers] at hrun
      obtain ⟨fault | other, between⟩ := outcome
      · exact (failWhole_yields _ _ _ _ _ hrun).elim
      · obtain ⟨hp, rfl⟩ := (hgives _ _).1 hmembers
        have hend : (endObject >>= fun _ => pure other).run ⟨'}' :: rest, position⟩ = _ :=
          run_bind_of_ok run_endObject _
        cases hend.symm.trans hrun
        exact ⟨hp, rfl⟩
  · rintro ⟨hp, rfl⟩
    rw [run_bind_of_ok ((hgives _ _).2 ⟨hp, rfl⟩)]
    exact run_bind_of_ok run_endObject _

theorem readRecord_brace (hblanks : AreBlanks blanks) :
    (readRecord shape).run ⟨blanks ++ '{' :: rest, position⟩ =
      (closeObject (readMembers shape (rest.length + 1) [] shape.initial true)).run
        ⟨rest, (position.past blanks).after '{'⟩ := by
  rw [readRecord, run_bind_of_ok (run_peekToken_cons hblanks rfl)]
  exact (run_bind_of_ok run_advance _).trans (run_bind_of_ok run_get _)

/-- A record is read from an object as the members of the object say. -/
theorem readRecord_iff (htakes : shape.Takes means) (hblanks : AreBlanks blanks)
    (hspells : Spells spelled (.object members)) {after : Cursor} :
    (readRecord shape).run ⟨blanks ++ (spelled ++ rest), position⟩ = .ok (record, after) ↔
      Collects shape means [] shape.initial members record ∧
        after = ⟨rest, position.past (blanks ++ spelled)⟩ := by
  cases hspells with
  | @emptyObject inside hinside =>
    simp only [List.cons_append, List.append_assoc, List.nil_append]
    rw [readRecord_brace hblanks, closeObject_iff (readMembers_gives_nil means hinside)]
    simp
  | @object inside members hinside =>
    simp only [List.cons_append, List.append_assoc, List.nil_append]
    have hbound : members.length < (inside ++ '}' :: rest).length + 1 := by
      have hlength := hinside.length_le
      rw [List.length_append]
      omega
    rw [readRecord_brace hblanks, closeObject_iff (readMembers_gives htakes hinside hbound)]
    simp

theorem run'_eq_ok_iff {reader : Reader α} {start : Cursor} :
    reader.run' start = .ok result ↔ ∃ stop, reader.run start = .ok (result, stop) := by
  change (·.1) <$> reader.run start = _ ↔ _
  cases reader.run start with
  | error error =>
    constructor
    · intro hrun
      cases hrun
    · rintro ⟨stop, hrun⟩
      cases hrun
  | ok outcome =>
    constructor
    · intro hrun
      cases hrun
      exact ⟨_, rfl⟩
    · rintro ⟨stop, hrun⟩
      cases hrun
      rfl

/-- What a whole text gives is settled by the members of the object that it spells. -/
theorem parse_eq_ok_iff (htakes : shape.Takes means) {text : String}
    (htext : Document text (.object members)) :
    parse (readRecord shape) text = .ok record ↔
      Collects shape means [] shape.initial members record := by
  obtain ⟨before, spelled, after, hbefore, hspells, hafter, htext⟩ := htext
  have hread (record : α) (stop : Cursor) :
      (readRecord shape).run ⟨before ++ (spelled ++ after), .start⟩ = .ok (record, stop) ↔ _ :=
    readRecord_iff htakes hbefore hspells
  rw [parse, Cursor.ofText, htext, run'_eq_ok_iff]
  constructor
  · rintro ⟨stop, hrun⟩
    cases hrecord : (readRecord shape).run ⟨before ++ (spelled ++ after), .start⟩ with
    | error error =>
      rw [run_bind_of_error hrecord] at hrun
      cases hrun
    | ok outcome =>
      obtain ⟨hcollects, hstop⟩ := (hread outcome.1 outcome.2).1 hrecord
      rw [run_bind_of_ok hrecord, hstop, run_bind_of_ok (run_peekToken_nil hafter)] at hrun
      cases hrun
      exact hcollects
  · intro hcollects
    rw [run_bind_of_ok ((hread record _).2 ⟨hcollects, rfl⟩),
      run_bind_of_ok (run_peekToken_nil hafter)]
    exact ⟨_, rfl⟩

end Objects

end TxClient.Json
