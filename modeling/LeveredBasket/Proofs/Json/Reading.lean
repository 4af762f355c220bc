/-
The reader reads what the printer prints.

Quoted text comes back by one character at a time: `Quoted.escapeChar_cases` says
how a character is written, and reading on behind it is one lemma for the reader
that looks for the closing mark and one for the reader of the text. An integer
ends where nothing follows that could belong to it.

`Json.Written` says of a value that forms have written it. The reader reads such a
value off its text whatever stands behind it that may stand behind a value
(`Written.reads`), by induction on the value: the items of an array are read with
what is left of the text as the bound of the depth.
-/
import LeveredBasket.Json.Form

set_option autoImplicit false

namespace LeveredBasket.Json

/-! ## Quoted text -/

namespace Quoted

/-- A control character has four hexadecimal digits, which are read as its number. -/
theorem paddedDigits_control : ∀ n < 32,
    paddedDigits 16 4 n = ['0', '0', (n / 16).digitChar, (n % 16).digitChar] ∧
      hexNumber? '0' '0' (n / 16).digitChar (n % 16).digitChar = some n := by decide

/-- **How a character is written**: by a letter, by its number, or as it is. -/
theorem escapeChar_cases (c : Char) :
    (∃ e, escapeChar c = ['\\', e] ∧ e ≠ 'u' ∧ letterEscape? e = some c) ∨
      (∃ x y, escapeChar c = ['\\', 'u', '0', '0', x, y] ∧ c.toNat < 32 ∧
        hexNumber? '0' '0' x y = some c.toNat) ∨
      escapeChar c = [c] ∧ c ≠ '"' ∧ c ≠ '\\' ∧ 32 ≤ c.toNat := by
  unfold escapeChar
  split
  case isTrue h =>
    subst h
    exact .inl ⟨'"', rfl, by decide, rfl⟩
  split
  case isTrue h =>
    subst h
    exact .inl ⟨'\\', rfl, by decide, rfl⟩
  split
  case isTrue h =>
    subst h
    exact .inl ⟨'b', rfl, by decide, rfl⟩
  split
  case isTrue h =>
    subst h
    exact .inl ⟨'f', rfl, by decide, rfl⟩
  split
  case isTrue h =>
    subst h
    exact .inl ⟨'n', rfl, by decide, rfl⟩
  split
  case isTrue h =>
    subst h
    exact .inl ⟨'r', rfl, by decide, rfl⟩
  split
  case isTrue h =>
    subst h
    exact .inl ⟨'t', rfl, by decide, rfl⟩
  split
  case isTrue hcontrol =>
    obtain ⟨hdigits, hnumber⟩ := paddedDigits_control c.toNat hcontrol
    rw [hdigits]
    exact .inr (.inl ⟨_, _, rfl, hcontrol, hnumber⟩)
  case isFalse hquote hslash _ _ _ _ _ hcontrol =>
    exact .inr (.inr ⟨rfl, hquote, hslash, Nat.le_of_not_lt hcontrol⟩)

/-- A digit is written as it is. -/
theorem escapeChar_of_isDigit {c : Char} (h : c.isDigit = true) : escapeChar c = [c] := by
  unfold escapeChar
  have hlow : 48 ≤ c.toNat := by
    have := h
    simp only [Char.isDigit, Bool.and_eq_true, decide_eq_true_eq] at this
    exact this.1
  iterate 7
    rw [if_neg (by rintro rfl; revert h; decide)]
  rw [if_neg (by omega)]

/-- Reading on behind a character: it comes back as it is written. -/
theorem split?_escapeChar (c : Char) (rest : List Char) :
    split? (escapeChar c ++ rest) = (split? rest).map fun p => (escapeChar c ++ p.1, p.2) := by
  rcases escapeChar_cases c with ⟨e, he, hu, hletter⟩ | ⟨x, y, he, -, hnumber⟩ |
    ⟨he, hquote, hslash, hlarge⟩
  · rw [he]
    cases hrest : split? rest <;> simp [split?, hu, hletter, hrest]
  · rw [he]
    cases hrest : split? rest <;> simp [split?, hnumber, hrest]
  · have hlow : ¬c.toNat < 32 := Nat.not_lt.2 hlarge
    rw [he]
    cases hrest : split? rest <;> simp [split?, hslash, hlow, hrest]

/-- What is written is read up to the closing mark. -/
theorem split?_escape (text rest : List Char) :
    split? (escape text ++ '"' :: rest) = some (escape text, rest) := by
  induction text with
  | nil => rfl
  | cons c text ih =>
    rw [escape, List.flatMap_cons, List.append_assoc, split?_escapeChar, ← escape, ih]
    rfl

/-- The piece behind which reading goes on is the character. -/
theorem pieces?_escapeChar (c : Char) (rest : List Char) :
    pieces? (escapeChar c ++ rest) = (pieces? rest).map (.char c :: ·) := by
  rcases escapeChar_cases c with ⟨e, he, hu, hletter⟩ | ⟨x, y, he, hlow, hnumber⟩ |
    ⟨he, hquote, hslash, hlarge⟩
  · rw [he]
    cases hrest : pieces? rest <;> simp [pieces?, hu, hletter, hrest]
  · -- no control character is half of a pair
    have hpiece : Piece.ofNumber c.toNat = .char c := by
      unfold Piece.ofNumber
      rw [if_neg (by omega), Char.ofNat_toNat]
    rw [he]
    cases hrest : pieces? rest <;> simp [pieces?, hnumber, hpiece, hrest]
  · rw [he]
    cases hrest : pieces? rest <;> simp [pieces?, hslash, hrest]

theorem pieces?_escape (text : List Char) :
    pieces? (escape text) = some (text.map Piece.char) := by
  induction text with
  | nil => rfl
  | cons c text ih =>
    rw [escape, List.flatMap_cons, pieces?_escapeChar, ← escape, ih]
    rfl

theorem join?_char (text : List Char) : join? (text.map Piece.char) = some text := by
  induction text with
  | nil => rfl
  | cons c text ih =>
    rw [List.map_cons, join?, ih]
    rfl

/-- **What is written means the text** that it was written for. -/
theorem unescape?_escape (text : List Char) : unescape? (escape text) = some text := by
  rw [unescape?, pieces?_escape]
  exact join?_char text

end Quoted

/-! ## Numbers -/

/-- What may stand behind a value: nothing, a comma, or what closes an array or an object. -/
def Follows (rest : List Char) : Prop := ∀ c ∈ rest.head?, c = ',' ∨ c = ']' ∨ c = '\x7d'

/-- Behind a value there is no more of a number. -/
theorem Follows.ends {rest : List Char} (h : Follows rest) :
    takeFraction? rest = some ([], rest) ∧ takeExponent? rest = some ([], rest) ∧
      rest.takeWhile Char.isDigit = [] ∧ rest.dropWhile Char.isDigit = rest := by
  cases rest with
  | nil => exact ⟨rfl, rfl, rfl, rfl⟩
  | cons c rest =>
    obtain rfl | rfl | rfl := h c rfl
    · exact ⟨rfl, rfl, rfl, rfl⟩
    · exact ⟨rfl, rfl, rfl, rfl⟩
    · exact ⟨rfl, rfl, rfl, rfl⟩

/-- A number above zero is not written with a zero in front. -/
theorem head?_toDigits {n : Nat} (hn : 0 < n) : (Nat.toDigits 10 n).head? ≠ some '0' := by
  induction n using Nat.strongRecOn with
  | ind n ih =>
    by_cases hlt : n < 10
    · have hdigit : ∀ k < 10, 0 < k → k.digitChar ≠ '0' := by decide
      rw [Nat.toDigits_of_lt_base hlt]
      exact fun h => hdigit n hlt hn (Option.some.inj h)
    · have hfirst := ih (n / 10) (by omega) (by omega)
      rw [Nat.toDigits_of_base_le (by decide) (Nat.le_of_not_lt hlt)]
      cases hdigits : Nat.toDigits 10 (n / 10) with
      | nil => exact absurd hdigits Nat.toDigits_ne_nil
      | cons c cs =>
        rw [hdigits] at hfirst
        exact hfirst

theorem isDigit_toDigits {n : Nat} {c : Char} (h : c ∈ Nat.toDigits 10 n) : c.isDigit = true :=
  Nat.isDigit_of_mem_toDigits (by decide) (by decide) h

theorem takeWhole?_toDigits (n : Nat) {rest : List Char} (hrest : Follows rest) :
    takeWhole? (Nat.toDigits 10 n ++ rest) = some (Nat.toDigits 10 n, rest) := by
  obtain ⟨-, -, htake, hdrop⟩ := hrest.ends
  have hdigits : ∀ c ∈ Nat.toDigits 10 n, c.isDigit = true := fun c hc => isDigit_toDigits hc
  have hall : takeDigits? (Nat.toDigits 10 n ++ rest) = some (Nat.toDigits 10 n, rest) := by
    unfold takeDigits?
    rw [List.takeWhile_append_of_pos hdigits, List.dropWhile_append_of_pos hdigits, htake, hdrop,
      List.append_nil]
    split
    case h_1 hnil => exact absurd hnil Nat.toDigits_ne_nil
    case h_2 => rfl
  unfold takeWhole?
  rw [hall]
  split
  case h_1 c cs tail heq =>
    obtain ⟨hzeros, -⟩ := Prod.mk.inj (Option.some.inj heq)
    rcases Nat.eq_zero_or_pos n with rfl | hn
    · rw [Nat.toDigits_zero] at hzeros
      cases hzeros
    · exact absurd (congrArg List.head? hzeros) (head?_toDigits hn)
  case h_2 => rfl

/-- **An integer is read as it is written**, up to where it ends. -/
theorem takeNumber?_integerDigits (i : Int) {rest : List Char} (hrest : Follows rest) :
    takeNumber? (integerDigits i ++ rest) = some (integerDigits i, rest) := by
  obtain ⟨hfraction, hexponent, -, -⟩ := hrest.ends
  have hwhole := takeWhole?_toDigits i.natAbs hrest
  unfold integerDigits
  split
  · have hsign : takeSign ['-'] ('-' :: (Nat.toDigits 10 i.natAbs ++ rest)) =
        (['-'], Nat.toDigits 10 i.natAbs ++ rest) := rfl
    simp [takeNumber?, hsign, hwhole, hfraction, hexponent]
  · have hsign : takeSign ['-'] (Nat.toDigits 10 i.natAbs ++ rest) =
        ([], Nat.toDigits 10 i.natAbs ++ rest) := by
      cases hdigits : Nat.toDigits 10 i.natAbs with
      | nil => exact absurd hdigits Nat.toDigits_ne_nil
      | cons c cs =>
        have hmem : c ∈ Nat.toDigits 10 i.natAbs := by simp [hdigits]
        have hc : c.isDigit = true := isDigit_toDigits hmem
        have hne : c ≠ '-' := by
          rintro rfl
          exact absurd hc (by decide)
        simp [takeSign, hne]
    simp [takeNumber?, hsign, hwhole, hfraction, hexponent]

/-- An integer starts with a sign or a digit. -/
theorem integerDigits_eq_cons (i : Int) :
    ∃ c cs, integerDigits i = c :: cs ∧ (c = '-' ∨ c.isDigit = true) := by
  unfold integerDigits
  split
  · exact ⟨'-', _, rfl, .inl rfl⟩
  · cases hdigits : Nat.toDigits 10 i.natAbs with
    | nil => exact absurd hdigits Nat.toDigits_ne_nil
    | cons c cs =>
      have hmem : c ∈ Nat.toDigits 10 i.natAbs := by simp [hdigits]
      exact ⟨c, cs, rfl, .inr (isDigit_toDigits hmem)⟩

/-! ## Values -/

/-- **A value as forms write it**: its numbers are integers, and its texts are escaped. -/
inductive Written : Json → Prop
  | null : Written .null
  | bool (b : Bool) : Written (.bool b)
  | number (i : Int) : Written (.number (integerDigits i))
  | string (text : List Char) : Written (.string (Quoted.escape text))
  | array {items : List Json} (h : ∀ v ∈ items, Written v) : Written (.array items)
  | object {members : List (List Char × Json)}
      (hnames : ∀ m ∈ members, ∃ text, m.1 = Quoted.escape text)
      (h : ∀ m ∈ members, Written m.2) : Written (.object members)

/-- **The reader reads the value** off its text, with anything behind it that may stand there. -/
def Reads (v : Json) : Prop :=
  ∀ fuel rest, (print v).length ≤ fuel → Follows rest →
    parseValue fuel (print v ++ rest) = some (v, rest)

/-- A value starts with no blank, nor as if its array were closed. -/
theorem Written.starts {v : Json} (h : v.Written) :
    ∃ c cs, print v = c :: cs ∧ isBlank c = false ∧ c ≠ ']' := by
  cases h with
  | null => exact ⟨'n', _, rfl, rfl, by decide⟩
  | bool b =>
    cases b with
    | true => exact ⟨'t', _, rfl, rfl, by decide⟩
    | false => exact ⟨'f', _, rfl, rfl, by decide⟩
  | number i =>
    obtain ⟨c, cs, hdigits, hc⟩ := integerDigits_eq_cons i
    refine ⟨c, cs, hdigits, ?_, ?_⟩
    · rcases hc with rfl | hc
      · rfl
      · cases hblank : isBlank c with
        | false => rfl
        | true =>
          simp only [isBlank, Bool.or_eq_true, decide_eq_true_eq] at hblank
          obtain ((rfl | rfl) | rfl) | rfl := hblank <;> cases hc
    · rintro rfl
      rcases hc with hc | hc <;> cases hc
  | string text => exact ⟨'"', _, rfl, rfl, by decide⟩
  | array h => exact ⟨'[', _, rfl, rfl, by decide⟩
  | object hnames h => exact ⟨'\x7b', _, rfl, rfl, by decide⟩

theorem skipBlanks_cons {c : Char} (hc : isBlank c = false) (cs : List Char) :
    skipBlanks (c :: cs) = c :: cs := by
  rw [skipBlanks, List.dropWhile_cons, hc]
  rfl

/-! ## Reading values back -/

theorem reads_number (i : Int) : Reads (.number (integerDigits i)) := by
  intro fuel rest hfuel hrest
  obtain ⟨c, cs, hdigits, hc⟩ := integerDigits_eq_cons i
  obtain ⟨c', cs', hdigits', hblank, -⟩ := (Written.number i).starts
  obtain ⟨rfl, rfl⟩ := List.cons.inj (hdigits.symm.trans hdigits')
  have hnumber := takeNumber?_integerDigits i hrest
  rw [print, hdigits] at hfuel ⊢
  rw [hdigits] at hnumber
  cases fuel with
  | zero => exact absurd hfuel (Nat.not_succ_le_zero _)
  | succ fuel =>
    rw [parseValue, List.cons_append, skipBlanks_cons hblank]
    rw [List.cons_append] at hnumber
    split
    case h_7 =>
      rw [hnumber]
      rfl
    -- no other value starts with a sign or a digit
    all_goals
      rename_i heq
      obtain ⟨rfl, -⟩ := List.cons.inj heq
      rcases hc with hc | hc <;> cases hc

theorem reads_string (text : List Char) : Reads (.string (Quoted.escape text)) := by
  intro fuel rest hfuel _
  cases fuel with
  | zero => exact absurd hfuel (Nat.not_succ_le_zero _)
  | succ fuel =>
    have hread : print (.string (Quoted.escape text)) ++ rest =
        '"' :: (Quoted.escape text ++ '"' :: rest) := by simp [print, quote]
    rw [hread, parseValue, skipBlanks_cons rfl]
    simp only [Quoted.split?_escape]
    rfl

/-- Items that are read one by one are read together, up to the closing bracket. -/
theorem parseItems_printItems {items : List Json} (hne : items ≠ [])
    (h : ∀ v ∈ items, v.Reads) (fuel : Nat) (rest : List Char)
    (hfuel : (printItems items).length < fuel) :
    parseItems fuel (printItems items ++ ']' :: rest) = some (items, rest) := by
  induction items generalizing fuel with
  | nil => exact absurd rfl hne
  | cons v items ih =>
    have hv := h v List.mem_cons_self
    cases fuel with
    | zero => exact absurd hfuel (Nat.not_lt_zero _)
    | succ fuel =>
      cases items with
      | nil =>
        have hfollows : Follows (']' :: rest) := fun c hc => .inr (.inl (Option.some.inj hc).symm)
        have hread := hv fuel (']' :: rest) (Nat.le_of_lt_succ hfuel) hfollows
        rw [printItems, parseItems, hread]
        rfl
      | cons w items =>
        have htext : printItems (v :: w :: items) ++ ']' :: rest =
            print v ++ ',' :: (printItems (w :: items) ++ ']' :: rest) := by simp [printItems]
        have hlength : (printItems (v :: w :: items)).length =
            (print v).length + ((printItems (w :: items)).length + 1) := by simp [printItems]
        have hfollows : Follows (',' :: (printItems (w :: items) ++ ']' :: rest)) :=
          fun c hc => .inl (Option.some.inj hc).symm
        have hread := hv fuel _ (by omega) hfollows
        have hrest := ih (List.cons_ne_nil _ _) (fun u hu => h u (List.mem_cons_of_mem _ hu)) fuel
          (by omega)
        rw [htext, parseItems, hread]
        simp only [Option.bind_eq_bind, Option.bind_some, skipBlanks_cons (c := ',') rfl, hrest]
        rfl

theorem reads_array {items : List Json} (hstarts : ∀ v ∈ items, v.Written)
    (h : ∀ v ∈ items, v.Reads) : Reads (.array items) := by
  intro fuel rest hfuel _
  cases fuel with
  | zero => exact absurd hfuel (Nat.not_succ_le_zero _)
  | succ fuel =>
    have htext : print (.array items) ++ rest = '[' :: (printItems items ++ ']' :: rest) := by
      simp [print]
    have hlength : (print (.array items)).length = (printItems items).length + 2 := by simp [print]
    rw [htext, parseValue, skipBlanks_cons rfl]
    cases items with
    | nil => rfl
    | cons v items =>
      have hread := parseItems_printItems (List.cons_ne_nil v items) h fuel rest (by omega)
      obtain ⟨c, cs, hc, hblank, hne⟩ := (hstarts v List.mem_cons_self).starts
      obtain ⟨cs', hitems⟩ : ∃ cs', printItems (v :: items) = c :: cs' := by
        cases items with
        | nil => exact ⟨cs, hc⟩
        | cons w items => exact ⟨_, by simp [printItems, hc]; rfl⟩
      rw [hitems, List.cons_append] at hread ⊢
      simp only [skipBlanks_cons hblank]
      split
      case h_1 heq => exact absurd (List.cons.inj heq).1 hne
      case h_2 =>
        rw [hread]
        rfl

/-- Members that are read one by one are read together, up to the closing brace. -/
theorem parseMembers_printMembers {members : List (List Char × Json)} (hne : members ≠ [])
    (hnames : ∀ m ∈ members, ∃ text, m.1 = Quoted.escape text) (h : ∀ m ∈ members, m.2.Reads)
    (fuel : Nat) (rest : List Char) (hfuel : (printMembers members).length < fuel) :
    parseMembers fuel (printMembers members ++ '\x7d' :: rest) = some (members, rest) := by
  induction members generalizing fuel with
  | nil => exact absurd rfl hne
  | cons m members ih =>
    obtain ⟨name, v⟩ := m
    obtain ⟨text, rfl⟩ : ∃ text, name = Quoted.escape text := hnames _ List.mem_cons_self
    have hv : v.Reads := h _ List.mem_cons_self
    cases fuel with
    | zero => exact absurd hfuel (Nat.not_lt_zero _)
    | succ fuel =>
      cases members with
      | nil =>
        have htext : printMembers [(Quoted.escape text, v)] ++ '\x7d' :: rest =
            '"' :: (Quoted.escape text ++ '"' :: ':' :: (print v ++ '\x7d' :: rest)) := by
          simp [printMembers, quote]
        have hlength : (printMembers [(Quoted.escape text, v)]).length =
            (Quoted.escape text).length + ((print v).length + 3) := by
          simp [printMembers, quote]
          omega
        have hfollows : Follows ('\x7d' :: rest) := fun c hc =>
          .inr (.inr (Option.some.inj hc).symm)
        have hread := hv fuel _ (by omega) hfollows
        rw [htext, parseMembers, skipBlanks_cons rfl]
        simp only [Quoted.split?_escape, Option.bind_eq_bind, Option.bind_some,
          skipBlanks_cons (c := ':') rfl, hread, skipBlanks_cons (c := '\x7d') rfl]
        rfl
      | cons m' members =>
        have htext : printMembers ((Quoted.escape text, v) :: m' :: members) ++ '\x7d' :: rest =
            '"' :: (Quoted.escape text ++ '"' :: ':' ::
              (print v ++ ',' :: (printMembers (m' :: members) ++ '\x7d' :: rest))) := by
          simp [printMembers, quote]
        have hlength : (printMembers ((Quoted.escape text, v) :: m' :: members)).length =
            (Quoted.escape text).length + ((print v).length +
              ((printMembers (m' :: members)).length + 4)) := by
          simp [printMembers, quote]
          omega
        have hfollows : Follows (',' :: (printMembers (m' :: members) ++ '\x7d' :: rest)) :=
          fun c hc => .inl (Option.some.inj hc).symm
        have hread := hv fuel _ (by omega) hfollows
        have hrest := ih (List.cons_ne_nil _ _)
          (fun u hu => hnames u (List.mem_cons_of_mem _ hu))
          (fun u hu => h u (List.mem_cons_of_mem _ hu)) fuel (by omega)
        rw [htext, parseMembers, skipBlanks_cons rfl]
        simp only [Quoted.split?_escape, Option.bind_eq_bind, Option.bind_some,
          skipBlanks_cons (c := ':') rfl, hread, skipBlanks_cons (c := ',') rfl, hrest]
        rfl

theorem reads_object {members : List (List Char × Json)}
    (hnames : ∀ m ∈ members, ∃ text, m.1 = Quoted.escape text) (h : ∀ m ∈ members, m.2.Reads) :
    Reads (.object members) := by
  intro fuel rest hfuel _
  cases fuel with
  | zero => exact absurd hfuel (Nat.not_succ_le_zero _)
  | succ fuel =>
    have htext : print (.object members) ++ rest =
        '\x7b' :: (printMembers members ++ '\x7d' :: rest) := by simp [print]
    have hlength : (print (.object members)).length = (printMembers members).length + 2 := by
      simp [print]
    rw [htext, parseValue, skipBlanks_cons rfl]
    cases members with
    | nil => rfl
    | cons m members =>
      have hread := parseMembers_printMembers (List.cons_ne_nil m members) hnames h fuel rest
        (by omega)
      obtain ⟨cs, hmembers⟩ : ∃ cs, printMembers (m :: members) = '"' :: cs := by
        cases members with
        | nil => exact ⟨_, rfl⟩
        | cons m' members => exact ⟨_, by simp [printMembers, quote]; rfl⟩
      rw [hmembers, List.cons_append] at hread ⊢
      simp only [skipBlanks_cons (c := '"') rfl]
      split
      case h_1 heq => exact absurd (List.cons.inj heq).1 (by decide)
      case h_2 =>
        rw [hread]
        rfl

/-- **What forms write is read back**, whatever may stand behind it. -/
theorem Written.reads {v : Json} (h : v.Written) : v.Reads := by
  induction h with
  | null =>
    intro fuel rest hfuel _
    cases fuel with
    | zero => exact absurd hfuel (Nat.not_succ_le_zero _)
    | succ fuel => rfl
  | bool b =>
    intro fuel rest hfuel _
    cases fuel with
    | zero => cases b <;> exact absurd hfuel (Nat.not_succ_le_zero _)
    | succ fuel => cases b <;> rfl
  | number i => exact reads_number i
  | string text => exact reads_string text
  | array hwritten ih => exact reads_array hwritten ih
  | object hnames _ ih => exact reads_object hnames ih

/-- **The text of a value that a form writes is read as that value.** -/
theorem Written.parse?_print {v : Json} (h : v.Written) : parse? (print v) = some v := by
  have hread := h.reads (print v).length [] (Nat.le_refl _) (fun c hc => by cases hc)
  rw [List.append_nil] at hread
  rw [parse?, hread]
  rfl

end LeveredBasket.Json
