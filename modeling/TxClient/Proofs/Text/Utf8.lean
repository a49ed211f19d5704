import Mathlib.Data.List.Basic

/-!
Texts as bytes. A character is written by the shortest group of bytes that writes its number.
Bytes are no text exactly if they go on, behind some whole characters, with something that no
character begins with.
-/

namespace TxClient.Utf8

section Groups

/-- A byte that continues a group: its highest bits are one and zero. -/
def IsTail (byte : UInt8) : Prop :=
  byte.toNat / 64 = 0b10

/-- How many tails have to stand behind a byte that begins a group. -/
def announced (lead : UInt8) : Nat :=
  if lead.toNat / 32 = 0b110 then 1
  else if lead.toNat / 16 = 0b1110 then 2
  else if lead.toNat / 8 = 0b11110 then 3
  else 0

/-- A group of bytes writes a number with the bits that do not mark the bytes. -/
inductive Writes : List UInt8 → Nat → Prop where
  | one {lead : UInt8} (hlead : lead.toNat / 128 = 0b0) : Writes [lead] lead.toNat
  | two {lead second : UInt8} (hlead : lead.toNat / 32 = 0b110) (hsecond : IsTail second) :
      Writes [lead, second] (lead.toNat % 32 * 64 + second.toNat % 64)
  | three {lead second third : UInt8} (hlead : lead.toNat / 16 = 0b1110) (hsecond : IsTail second)
      (hthird : IsTail third) :
      Writes [lead, second, third]
        (lead.toNat % 16 * 4096 + second.toNat % 64 * 64 + third.toNat % 64)
  | four {lead second third fourth : UInt8} (hlead : lead.toNat / 8 = 0b11110)
      (hsecond : IsTail second) (hthird : IsTail third) (hfourth : IsTail fourth) :
      Writes [lead, second, third, fourth]
        (lead.toNat % 8 * 262144 + second.toNat % 64 * 4096 + third.toNat % 64 * 64 +
          fourth.toNat % 64)

/-- No shorter group writes the number. -/
def Shortest (group : List UInt8) (n : Nat) : Prop :=
  ∀ other, Writes other n → group.length ≤ other.length

/-- The bytes are the characters, each written by the shortest group for its number. -/
inductive Encodes : List UInt8 → List Char → Prop where
  | nil : Encodes [] []
  | cons {group bytes : List UInt8} {c : Char} {chars : List Char} (hwrites : Writes group c.toNat)
      (hshortest : Shortest group c.toNat) (hbytes : Encodes bytes chars) :
      Encodes (group ++ bytes) (c :: chars)

/-- What no character begins with. -/
inductive Fault : List UInt8 → Prop where
  /-- A tail without a beginning. -/
  | stray {byte : UInt8} {rest : List UInt8} (hbyte : IsTail byte) : Fault (byte :: rest)
  /-- A byte that no group has. -/
  | unused {byte : UInt8} {rest : List UInt8} (hbyte : byte.toNat / 8 = 0b11111) :
      Fault (byte :: rest)
  /-- A group that ends, or goes on with something else, before all its tails have come. -/
  | truncated {lead : UInt8} {tails rest : List UInt8} (htails : ∀ tail ∈ tails, IsTail tail)
      (hshort : tails.length < announced lead)
      (hrest : ∀ next, rest.head? = some next → ¬ IsTail next) :
      Fault (lead :: (tails ++ rest))
  /-- A group for a number that a shorter group writes. -/
  | overlong {group shorter rest : List UInt8} {n : Nat} (hwrites : Writes group n)
      (hshorter : Writes shorter n) (hlength : shorter.length < group.length) :
      Fault (group ++ rest)
  /-- A number that is kept for one half of a character. -/
  | surrogate {group rest : List UInt8} {n : Nat} (hwrites : Writes group n)
      (hrange : 0xd800 ≤ n ∧ n ≤ 0xdfff) : Fault (group ++ rest)
  /-- A number beyond the last character. -/
  | beyond {group rest : List UInt8} {n : Nat} (hwrites : Writes group n) (hrange : 0x10ffff < n) :
      Fault (group ++ rest)

/-- The bytes go on with a fault behind some whole characters. -/
def Breaks (bytes : List UInt8) : Prop :=
  ∃ front chars rest, Encodes front chars ∧ Fault rest ∧ bytes = front ++ rest

end Groups

section Reading

variable {group other more tails rest : List UInt8} {lead : UInt8} {n m : Nat}

theorem Writes.unique (hwrites : Writes group n) (hother : Writes group m) : n = m := by
  cases hwrites <;> cases hother <;> rfl

theorem Writes.ne_nil (hwrites : Writes group n) : group ≠ [] := by
  cases hwrites <;> simp

/-- The first byte of a group tells how many tails follow it. -/
theorem Writes.announces (hwrites : Writes (lead :: tails) n) :
    tails.length = announced lead ∧ ∀ tail ∈ tails, IsTail tail := by
  cases hwrites with
  | one hlead =>
    refine ⟨?_, by simp⟩
    rw [announced, if_neg (by omega), if_neg (by omega), if_neg (by omega)]
    rfl
  | two hlead hsecond =>
    refine ⟨?_, by simp [hsecond]⟩
    rw [announced, if_pos hlead]
    rfl
  | three hlead hsecond hthird =>
    refine ⟨?_, by simp [hsecond, hthird]⟩
    rw [announced, if_neg (by omega), if_pos hlead]
    rfl
  | four hlead hsecond hthird hfourth =>
    refine ⟨?_, by simp [hsecond, hthird, hfourth]⟩
    rw [announced, if_neg (by omega), if_neg (by omega), if_pos hlead]
    rfl

theorem Writes.lead_ne (hwrites : Writes (lead :: tails) n) :
    ¬ IsTail lead ∧ lead.toNat / 8 ≠ 0b11111 := by
  unfold IsTail
  cases hwrites <;> omega

/-- Where a group begins, its end and its number are fixed. -/
theorem Writes.append_inj (hwrites : Writes group n) (hother : Writes other m)
    (heq : group ++ rest = other ++ more) : group = other ∧ n = m ∧ rest = more := by
  cases group with
  | nil => exact absurd rfl hwrites.ne_nil
  | cons lead tails =>
    cases other with
    | nil => exact absurd rfl hother.ne_nil
    | cons otherLead otherTails =>
      obtain ⟨rfl, -⟩ := List.cons.inj heq
      obtain ⟨hlength, -⟩ := hwrites.announces
      obtain ⟨hotherLength, -⟩ := hother.announces
      have hsize : (lead :: tails).length = (lead :: otherTails).length := by
        rw [List.length_cons, List.length_cons, hlength, hotherLength]
      obtain ⟨hgroup, hrest⟩ := List.append_inj heq hsize
      rw [← hgroup] at hother
      exact ⟨hgroup, hwrites.unique hother, hrest⟩

/-- Tails in the announced number complete a group. -/
theorem exists_writes (hlead : 0 < announced lead) (hlength : tails.length = announced lead)
    (htails : ∀ tail ∈ tails, IsTail tail) : ∃ n, Writes (lead :: tails) n := by
  unfold announced at hlead hlength
  split_ifs at hlead hlength with htwo hthree hfour
  · obtain ⟨second, rfl⟩ := List.length_eq_one_iff.1 hlength
    exact ⟨_, .two htwo (htails second (by simp))⟩
  · obtain ⟨second, third, rfl⟩ := List.length_eq_two.1 hlength
    exact ⟨_, .three hthree (htails second (by simp)) (htails third (by simp))⟩
  · obtain ⟨second, third, fourth, rfl⟩ := List.length_eq_three.1 hlength
    exact ⟨_, .four hfour (htails second (by simp)) (htails third (by simp))
      (htails fourth (by simp))⟩
  · exact absurd hlead (Nat.lt_irrefl 0)

end Reading

section Characters

variable {group other bytes : List UInt8} {n m : Nat} {chars : List Char}

/-- The larger a number, the longer are its groups. -/
theorem Writes.le_length (hwrites : Writes group n) :
    1 ≤ group.length ∧ (0x80 ≤ n → 2 ≤ group.length) ∧ (0x800 ≤ n → 3 ≤ group.length) ∧
      (0x10000 ≤ n → 4 ≤ group.length) := by
  cases hwrites with
  | one | two | three | four =>
    simp only [List.length_cons, List.length_nil]
    omega

/-- Bytes with the same mark and the same other bits are the same. -/
theorem eq_of_bits {first second : UInt8} {size mark : Nat} (hfirst : first.toNat / size = mark)
    (hsecond : second.toNat / size = mark) (hbits : first.toNat % size = second.toNat % size) :
    first = second := by
  rw [← UInt8.toNat_inj, ← Nat.div_add_mod first.toNat size, ← Nat.div_add_mod second.toNat size,
    hfirst, hsecond, hbits]

/-- Groups of one length for one number are the same. -/
theorem Writes.eq_of_length (hwrites : Writes group n) (hother : Writes other n)
    (hlength : group.length = other.length) : group = other := by
  generalize hn : n = m at hother
  cases hwrites with
  | one hlead =>
    cases hother with
    | one => rw [UInt8.toNat_inj.1 hn]
    | two | three | four => cases hlength
  | two hlead hsecond =>
    cases hother with
    | two hlead' hsecond' =>
      rw [eq_of_bits hlead hlead' (by omega), eq_of_bits hsecond hsecond' (by omega)]
    | one | three | four => cases hlength
  | three hlead hsecond hthird =>
    cases hother with
    | three hlead' hsecond' hthird' =>
      rw [eq_of_bits hlead hlead' (by omega), eq_of_bits hsecond hsecond' (by omega),
        eq_of_bits hthird hthird' (by omega)]
    | one | two | four => cases hlength
  | four hlead hsecond hthird hfourth =>
    cases hother with
    | four hlead' hsecond' hthird' hfourth' =>
      rw [eq_of_bits hlead hlead' (by omega), eq_of_bits hsecond hsecond' (by omega),
        eq_of_bits hthird hthird' (by omega), eq_of_bits hfourth hfourth' (by omega)]
    | one | two | three => cases hlength

theorem isTail_ofNat (n : Nat) : IsTail (.ofNat (n % 64 + 128)) := by
  rw [IsTail, UInt8.toNat_ofNat']
  omega

theorem toNat_ofNat_tail (n : Nat) : (UInt8.ofNat (n % 64 + 128)).toNat % 64 = n % 64 := by
  rw [UInt8.toNat_ofNat']
  omega

theorem Writes.of_eq (hwrites : Writes group m) (heq : m = n) : Writes group n :=
  heq ▸ hwrites

theorem toNat_cases (c : Char) : c.toNat < 0xd800 ∨ 0xdfff < c.toNat ∧ c.toNat < 0x110000 :=
  c.valid

/-- The bytes of a character are the shortest group for its number. -/
theorem writes_utf8EncodeChar (c : Char) :
    Writes (String.utf8EncodeChar c) c.toNat ∧ Shortest (String.utf8EncodeChar c) c.toNat := by
  have hvalid := toNat_cases c
  have hbyte (n : Nat) : (UInt8.ofNat n).toNat = n % 256 := UInt8.toNat_ofNat'
  rw [String.utf8EncodeChar, show c.val.toNat = c.toNat from rfl]
  generalize c.toNat = n at *
  -- one branch for each length; the bounds of the branch rule out the shorter groups
  split
  · refine ⟨(Writes.one ?_).of_eq ?_, ?_⟩
    · rw [hbyte]
      omega
    · rw [hbyte]
      omega
    · intro other hother
      exact hother.le_length.1
  split
  · refine ⟨(Writes.two ?_ (isTail_ofNat n)).of_eq ?_, ?_⟩
    · rw [hbyte]
      omega
    · rw [hbyte, toNat_ofNat_tail]
      omega
    · intro other hother
      exact hother.le_length.2.1 (by omega)
  split
  · refine ⟨(Writes.three ?_ (isTail_ofNat (n / 64)) (isTail_ofNat n)).of_eq ?_, ?_⟩
    · rw [hbyte]
      omega
    · rw [hbyte, toNat_ofNat_tail, toNat_ofNat_tail]
      omega
    · intro other hother
      exact hother.le_length.2.2.1 (by omega)
  · refine ⟨(Writes.four ?_ (isTail_ofNat (n / 4096)) (isTail_ofNat (n / 64))
      (isTail_ofNat n)).of_eq ?_, ?_⟩
    · rw [hbyte]
      omega
    · rw [hbyte, toNat_ofNat_tail, toNat_ofNat_tail, toNat_ofNat_tail]
      omega
    · intro other hother
      exact hother.le_length.2.2.2 (by omega)

/-- Bytes encode characters if they are what the characters are written as. -/
theorem encodes_iff : Encodes bytes chars ↔ bytes = chars.flatMap String.utf8EncodeChar := by
  constructor
  · intro hencodes
    induction hencodes with
    | nil => rfl
    | @cons group bytes c chars hwrites hshortest _ ih =>
      obtain ⟨hwritten, hleast⟩ := writes_utf8EncodeChar c
      have hlength : group.length = (String.utf8EncodeChar c).length :=
        Nat.le_antisymm (hshortest _ hwritten) (hleast group hwrites)
      rw [List.flatMap_cons, hwrites.eq_of_length hwritten hlength, ih]
  · rintro rfl
    induction chars with
    | nil => exact .nil
    | cons c chars ih =>
      obtain ⟨hwritten, hleast⟩ := writes_utf8EncodeChar c
      exact .cons hwritten hleast ih

end Characters

section Faults

variable {group bytes more : List UInt8} {n : Nat} {c : Char} {chars : List Char}

theorem Fault.ne_nil (hfault : Fault bytes) : bytes ≠ [] := by
  cases hfault with
  | stray | unused | truncated => exact List.cons_ne_nil _ _
  | overlong hwrites | surrogate hwrites | beyond hwrites =>
    exact List.append_ne_nil_of_left_ne_nil hwrites.ne_nil _

/-- No character begins like a fault. -/
theorem not_fault_of_writes (hwrites : Writes group c.toNat) (hshortest : Shortest group c.toNat) :
    ¬ Fault (group ++ more) := by
  have hvalid := toNat_cases c
  intro hfault
  generalize hwhole : group ++ more = whole at hfault
  cases hfault with
  | stray hbyte =>
    obtain ⟨lead, tails, rfl⟩ := List.exists_cons_of_ne_nil hwrites.ne_nil
    obtain ⟨rfl, -⟩ := List.cons.inj hwhole
    exact hwrites.lead_ne.1 hbyte
  | unused hbyte =>
    obtain ⟨lead, tails, rfl⟩ := List.exists_cons_of_ne_nil hwrites.ne_nil
    obtain ⟨rfl, -⟩ := List.cons.inj hwhole
    exact hwrites.lead_ne.2 hbyte
  | @truncated _ found rest hfound hshort hrest =>
    obtain ⟨lead, tails, rfl⟩ := List.exists_cons_of_ne_nil hwrites.ne_nil
    obtain ⟨rfl, hbehind⟩ := List.cons.inj hwhole
    obtain ⟨hlength, htails⟩ := hwrites.announces
    -- the group has more tails than were found, so the byte behind those found is one as well
    obtain ⟨extra, rfl, -⟩ | ⟨missing, rfl, rfl⟩ := List.append_eq_append_iff.1 hbehind
    · rw [List.length_append] at hshort
      omega
    · cases missing with
      | nil =>
        rw [List.append_nil] at hlength
        omega
      | cons next missing => exact hrest next rfl (htails next (by simp))
  | overlong hother hshorter hlength =>
    obtain ⟨rfl, rfl, -⟩ := hwrites.append_inj hother hwhole
    exact Nat.not_le.2 hlength (hshortest _ hshorter)
  | surrogate hother hrange =>
    obtain ⟨rfl, rfl, -⟩ := hwrites.append_inj hother hwhole
    omega
  | beyond hother hrange =>
    obtain ⟨rfl, rfl, -⟩ := hwrites.append_inj hother hwhole
    omega

theorem Breaks.not_encodes (hbreaks : Breaks bytes) : ¬ Encodes bytes chars := by
  obtain ⟨front, others, rest, hfront, hfault, rfl⟩ := hbreaks
  -- both readings take the same groups off the front, until one of them meets the fault
  induction hfront generalizing chars with
  | nil =>
    intro hencodes
    rw [List.nil_append] at hencodes
    cases hencodes with
    | nil => exact hfault.ne_nil rfl
    | cons hwrites hshortest => exact not_fault_of_writes hwrites hshortest hfault
  | @cons group front _ _ hwrites _ _ ih =>
    intro hencodes
    generalize hwhole : group ++ front ++ rest = whole at hencodes
    rw [List.append_assoc] at hwhole
    cases hencodes with
    | nil => exact hwrites.ne_nil (List.append_eq_nil_iff.1 hwhole).1
    | cons hother _ hmore =>
      obtain ⟨-, -, rfl⟩ := hwrites.append_inj hother hwhole
      exact ih hmore

/-- The tails at the front, as many as are looked for or all that there are. -/
theorem exists_tails (count : Nat) (behind : List UInt8) :
    ∃ tails rest, behind = tails ++ rest ∧ (∀ tail ∈ tails, IsTail tail) ∧
      (tails.length = count ∨
        tails.length < count ∧ ∀ next, rest.head? = some next → ¬ IsTail next) := by
  induction count generalizing behind with
  | zero => exact ⟨[], behind, rfl, by simp, .inl rfl⟩
  | succ count ih =>
    cases behind with
    | nil => exact ⟨[], [], rfl, by simp, .inr ⟨Nat.succ_pos count, by simp⟩⟩
    | cons next behind =>
      by_cases hnext : IsTail next
      · obtain ⟨tails, rest, rfl, htails, hcount⟩ := ih behind
        refine ⟨next :: tails, rest, rfl, ?_, ?_⟩
        · simpa [hnext] using htails
        · simpa using hcount
      · exact ⟨[], next :: behind, rfl, by simp, .inr ⟨Nat.succ_pos count, by simpa using hnext⟩⟩

theorem exists_writes_or_fault (lead : UInt8) (behind : List UInt8) :
    (∃ group rest n, lead :: behind = group ++ rest ∧ Writes group n) ∨
      Fault (lead :: behind) := by
  by_cases hone : lead.toNat / 128 = 0b0
  · exact .inl ⟨[lead], behind, _, rfl, .one hone⟩
  by_cases htail : IsTail lead
  · exact .inr (.stray htail)
  by_cases hunused : lead.toNat / 8 = 0b11111
  · exact .inr (.unused hunused)
  have hannounced : 0 < announced lead := by
    have hbyte : lead.toNat < 256 := lead.toNat_lt
    unfold announced IsTail at *
    split_ifs <;> omega
  obtain ⟨tails, rest, rfl, htails, hlength | ⟨hshort, hrest⟩⟩ :=
    exists_tails (announced lead) behind
  · obtain ⟨n, hwrites⟩ := exists_writes hannounced hlength htails
    exact .inl ⟨lead :: tails, rest, n, rfl, hwrites⟩
  · exact .inr (.truncated htails hshort hrest)

theorem Writes.character_or_fault (hwrites : Writes group n) (rest : List UInt8) :
    (∃ c : Char, n = c.toNat ∧ Shortest group n) ∨ Fault (group ++ rest) := by
  by_cases hshortest : Shortest group n
  · by_cases hsurrogate : 0xd800 ≤ n ∧ n ≤ 0xdfff
    · exact .inr (.surrogate hwrites hsurrogate)
    by_cases hbeyond : 0x10ffff < n
    · exact .inr (.beyond hwrites hbeyond)
    have hvalid : n.isValidChar := by
      unfold Nat.isValidChar
      omega
    exact .inl ⟨.ofNatAux n hvalid, rfl, hshortest⟩
  · obtain ⟨shorter, hnot⟩ := not_forall.1 hshortest
    obtain ⟨hshorter, hlength⟩ := Classical.not_imp.1 hnot
    exact .inr (.overlong hwrites hshorter (Nat.lt_of_not_le hlength))

/-- Bytes begin with a character or with a fault. -/
theorem exists_character_or_fault (lead : UInt8) (behind : List UInt8) :
    (∃ (group rest : List UInt8) (c : Char), lead :: behind = group ++ rest ∧
        Writes group c.toNat ∧ Shortest group c.toNat) ∨
      Fault (lead :: behind) := by
  obtain ⟨group, rest, n, hwhole, hwrites⟩ | hfault := exists_writes_or_fault lead behind
  · rw [hwhole]
    obtain ⟨c, rfl, hshortest⟩ | hfault := hwrites.character_or_fault rest
    · exact .inl ⟨group, rest, c, rfl, hwrites, hshortest⟩
    · exact .inr hfault
  · exact .inr hfault

theorem Fault.breaks (hfault : Fault bytes) : Breaks bytes :=
  ⟨[], [], bytes, .nil, hfault, rfl⟩

theorem Breaks.behind (hwrites : Writes group c.toNat) (hshortest : Shortest group c.toNat)
    (hbreaks : Breaks bytes) : Breaks (group ++ bytes) := by
  obtain ⟨front, chars, rest, hfront, hfault, rfl⟩ := hbreaks
  exact ⟨group ++ front, c :: chars, rest, .cons hwrites hshortest hfront, hfault,
    (List.append_assoc _ _ _).symm⟩

theorem encodes_or_breaks (bytes : List UInt8) : (∃ chars, Encodes bytes chars) ∨ Breaks bytes := by
  -- by the length, since a character takes more than one byte off
  induction hlength : bytes.length using Nat.strongRecOn generalizing bytes with
  | ind length ih =>
    cases bytes with
    | nil => exact .inl ⟨[], .nil⟩
    | cons lead behind =>
      obtain ⟨group, rest, c, hwhole, hwrites, hshortest⟩ | hfault :=
        exists_character_or_fault lead behind
      · rw [hwhole] at hlength ⊢
        have hless : rest.length < length := by
          have hpos := List.length_pos_of_ne_nil hwrites.ne_nil
          rw [← hlength, List.length_append]
          omega
        obtain ⟨chars, hchars⟩ | hbreaks := ih rest.length hless rest rfl
        · exact .inl ⟨c :: chars, .cons hwrites hshortest hchars⟩
        · exact .inr (hbreaks.behind hwrites hshortest)
      · exact .inr hfault.breaks

/-- Bytes that encode nothing are those that break somewhere. -/
theorem breaks_iff : Breaks bytes ↔ ∀ chars, ¬ Encodes bytes chars := by
  constructor
  · intro hbreaks chars
    exact hbreaks.not_encodes
  · intro hnone
    obtain ⟨chars, hchars⟩ | hbreaks := encodes_or_breaks bytes
    · exact absurd hchars (hnone chars)
    · exact hbreaks

end Faults

end TxClient.Utf8
