/-
Forms that read what they write.

A form is lawful if what it writes is read back from its text, and decoded to the
value that was encoded. It then takes one fact for each type that a value comes
back from its text (`JsonForm.ofText?_text`), and a record is lawful if its fields
are: where no name comes twice, each field is found under its name
(`Json.fields?_record`).
-/
import LeveredBasket.Proofs.Json.Reading

set_option autoImplicit false

namespace LeveredBasket

open JsonForm (encode decode?)

/-- **A form that reads what it writes.** -/
class LawfulJsonForm (α : Type) [JsonForm α] : Prop where
  written (a : α) : (encode a).Written
  decode?_encode (a : α) : decode? (encode a) = some a

/-- Text is read as the value that it was written for. -/
theorem JsonForm.ofText?_of_written {α : Type} [JsonForm α] {v : Json} {a : α} (hv : v.Written)
    (hread : decode? v = some a) : ofText? v.text = some a := by
  rw [ofText?, Json.text, String.toList_ofList, hv.parse?_print]
  exact hread

/-- **The text of a value is read as that value.** -/
theorem JsonForm.ofText?_text {α : Type} [JsonForm α] [LawfulJsonForm α] (a : α) :
    ofText? (text a) = some a :=
  ofText?_of_written (LawfulJsonForm.written a) (LawfulJsonForm.decode?_encode a)

namespace Json

/-! ## Numbers -/

theorem integerDigits_natCast (n : Nat) : integerDigits n = Nat.toDigits 10 n := by
  rw [integerDigits, if_neg (Int.not_lt.2 (Int.natCast_nonneg n)), Int.natAbs_natCast]

theorem natural?_toDigits (n : Nat) : natural? (Nat.toDigits 10 n) = some n := by
  have hdigits : (Nat.toDigits 10 n).all Char.isDigit = true := by
    rw [List.all_eq_true]
    exact fun c hc => isDigit_toDigits hc
  rw [natural?, if_pos hdigits, Nat.ofDigitChars_ten_toDigits]

theorem written_natural (n : Nat) : Written (.number (Nat.toDigits 10 n)) := by
  rw [← integerDigits_natCast]
  exact .number n

instance {bits : Nat} : LawfulJsonForm (Word bits) where
  written w := written_natural w.toNat
  decode?_encode w := by
    change natural? (Nat.toDigits 10 w.toNat) >>= Word.ofNat? bits = some w
    rw [natural?_toDigits]
    exact Word.ofNat?_toNat w

/-- What is written in digits does not begin with a minus sign. -/
theorem toDigits_ne_minus (n : Nat) (digits : List Char) : Nat.toDigits 10 n ≠ '-' :: digits := by
  intro h
  have hdigit : Char.isDigit '-' = true := isDigit_toDigits (h ▸ List.mem_cons_self)
  exact absurd hdigit (by decide)

theorem integer?_integerDigits (i : Int) : integer? (integerDigits i) = some i := by
  unfold integerDigits
  split
  case isTrue hneg =>
    have habs : -(i.natAbs : Int) = i := by omega
    rw [integer?, natural?_toDigits]
    exact congrArg some habs
  case isFalse hpos =>
    have habs : (i.natAbs : Int) = i := by omega
    unfold integer?
    split
    case h_1 h => exact absurd h (toDigits_ne_minus _ _)
    case h_2 => rw [natural?_toDigits, Option.map_some, Int.ofNat_eq_natCast, habs]

/-- A zero is written without a sign. -/
theorem integerDigits_ne_negativeZero (i : Int) : integerDigits i ≠ ['-', '0'] := by
  intro h
  unfold integerDigits at h
  split at h
  case isTrue hneg =>
    have hzero : natural? (Nat.toDigits 10 i.natAbs) = some 0 := by
      rw [(List.cons.inj h).2]
      rfl
    rw [natural?_toDigits, Option.some.injEq] at hzero
    omega
  case isFalse => exact toDigits_ne_minus _ _ h

instance : LawfulJsonForm (IntWord 64) where
  written i := .number i.toInt
  decode?_encode i := by
    have hread : (decode? (.number (integerDigits i.toInt)) : Option (IntWord 64)) =
        integer? (integerDigits i.toInt) >>= IntWord.ofInt? 64 := by
      simp only [decode?]
      split
      case h_1 h => exact absurd (Json.number.inj h) (integerDigits_ne_negativeZero _)
      case h_2 h => rw [Json.number.inj h]
      case h_3 h => exact absurd rfl (h _)
    change (decode? (.number (integerDigits i.toInt)) : Option (IntWord 64)) = some i
    rw [hread, integer?_integerDigits]
    exact IntWord.ofInt?_toInt i

instance : LawfulJsonForm (IntWord 128) where
  written i := .number i.toInt
  decode?_encode i := by
    change integer? (integerDigits i.toInt) >>= IntWord.ofInt? 128 = some i
    rw [integer?_integerDigits]
    exact IntWord.ofInt?_toInt i

instance : LawfulJsonForm UInt8 where
  written b := written_natural b.toNat
  decode?_encode b := by
    change (do
      let n ← natural? (Nat.toDigits 10 b.toNat)
      if n < 256 then some (UInt8.ofNat n) else none) = some b
    rw [natural?_toDigits]
    have hlt : b.toNat < 256 := b.toNat_lt
    simp [hlt]

instance : LawfulJsonForm Address where
  written a := LawfulJsonForm.written a.value
  decode?_encode a := by
    change (decode? (encode a.value)).map Address.mk = some a
    rw [LawfulJsonForm.decode?_encode]
    rfl

instance : LawfulJsonForm PositionUnit where
  written u := LawfulJsonForm.written u.value
  decode?_encode u := by
    change (decode? (encode u.value)).map PositionUnit.mk = some u
    rw [LawfulJsonForm.decode?_encode]
    rfl

instance : LawfulJsonForm BasisPoints where
  written r := LawfulJsonForm.written r.value
  decode?_encode r := by
    change (decode? (encode r.value)).map BasisPoints.mk = some r
    rw [LawfulJsonForm.decode?_encode]
    rfl

instance : LawfulJsonForm Instant where
  written t := LawfulJsonForm.written t.millis
  decode?_encode t := by
    change (decode? (encode t.millis)).map Instant.mk = some t
    rw [LawfulJsonForm.decode?_encode]
    rfl

/-! ## Text, truth values and options -/

theorem textOf?_escape (text : String) : textOf? (Quoted.escape text.toList) = some text := by
  rw [textOf?, Quoted.unescape?_escape, Option.map_some, String.ofList_toList]

theorem written_ofText (text : String) : (ofText text).Written := .string text.toList

instance : LawfulJsonForm String where
  written := written_ofText
  decode?_encode := textOf?_escape

instance : LawfulJsonForm Bool where
  written b := .bool b
  decode?_encode _ := rfl

/-- An option is read back where no value of its type is written as null. -/
theorem decode?_encode_option {α : Type} [JsonForm α] [LawfulJsonForm α]
    (hvalue : ∀ a : α, encode a ≠ .null) (o : Option α) : decode? (encode o) = some o := by
  cases o with
  | none => rfl
  | some a =>
    have hsome : (decode? (encode a) : Option (Option α)) = (decode? (encode a)).map some := by
      simp only [decode?]
      split
      case h_1 h => exact absurd h (hvalue a)
      case h_2 => rfl
    change (decode? (encode a) : Option (Option α)) = some (some a)
    rw [hsome, LawfulJsonForm.decode?_encode]
    rfl

instance : LawfulJsonForm (Option Address) where
  written o := by
    cases o with
    | none => exact .null
    | some a => exact LawfulJsonForm.written a
  decode?_encode := decode?_encode_option fun _ h => Json.noConfusion h

/-! ## Lists -/

/-- Items that are read one by one are read together. -/
theorem mapM_map {α β γ : Type} {f : β → Option γ} {g : α → β} {k : α → γ} {as : List α}
    (h : ∀ a ∈ as, f (g a) = some (k a)) : (as.map g).mapM f = some (as.map k) := by
  induction as with
  | nil => rfl
  | cons a as ih =>
    have ha := h a List.mem_cons_self
    have has := ih fun x hx => h x (List.mem_cons_of_mem _ hx)
    rw [List.map_cons, List.mapM_cons, ha, has]
    rfl

instance {α : Type} [JsonForm α] [LawfulJsonForm α] : LawfulJsonForm (List α) where
  written as := by
    refine .array fun v hv => ?_
    obtain ⟨a, -, rfl⟩ := List.mem_map.1 hv
    exact LawfulJsonForm.written a
  decode?_encode as := by
    have hread : (as.map encode).mapM decode? = some (as.map id) :=
      mapM_map fun a _ => LawfulJsonForm.decode?_encode a
    rw [List.map_id] at hread
    exact hread

/-! ## Records -/

theorem written_record {members : List (String × Json)} (h : ∀ m ∈ members, m.2.Written) :
    (record members).Written := by
  refine .object (fun m hm => ?_) fun m hm => ?_
  · obtain ⟨m', -, rfl⟩ := List.mem_map.1 hm
    exact ⟨_, rfl⟩
  · obtain ⟨m', hm', rfl⟩ := List.mem_map.1 hm
    exact h m' hm'

/-- Where no name comes twice, each is found. -/
theorem member?_of_mem {members : List (String × Json)} (hnodup : (members.map Prod.fst).Nodup)
    {m : String × Json} (hm : m ∈ members) : member? m.1 members = some (some m.2) := by
  have hfound : members.filter (·.1 = m.1) = [m] := by
    induction members with
    | nil => cases hm
    | cons m' members ih =>
      rw [List.map_cons, List.nodup_cons] at hnodup
      obtain ⟨hnew, hnodup⟩ := hnodup
      rcases List.mem_cons.1 hm with rfl | hm
      · have hothers : members.filter (·.1 = m.1) = [] := by
          rw [List.filter_eq_nil_iff]
          intro x hx hname
          exact hnew (List.mem_map.2 ⟨x, hx, of_decide_eq_true hname⟩)
        rw [List.filter_cons_of_pos (by simp), hothers]
      · have hname : m'.1 ≠ m.1 := fun h => hnew (h ▸ List.mem_map_of_mem hm)
        rw [List.filter_cons_of_neg (by simp [hname]), ih hnodup hm]
  rw [member?, hfound]

/-- **The fields of a record are read as they were written.** -/
theorem fields?_record (members : List (String × Json)) (hnodup : (members.map Prod.fst).Nodup) :
    fields? (members.map Prod.fst) (record members) = some (members.map fun m => some m.2) := by
  have hmembers : (members.map fun m => (Quoted.escape m.1.toList, m.2)).mapM
      (fun m => (textOf? m.1).map fun name => (name, m.2)) = some (members.map id) :=
    mapM_map fun m _ => by rw [textOf?_escape, Option.map_some, id]
  have hfields : (members.map Prod.fst).mapM (fun name => member? name members) =
      some (members.map fun m => some m.2) := mapM_map fun m hm => member?_of_mem hnodup hm
  rw [record, fields?, members?, hmembers, List.map_id]
  exact hfields

/-- **A record is read as the value whose fields were written**: it takes that its names are those
which are asked for, none twice, and that its fields give the value back. -/
theorem fields?_record_bind {α : Type} {names : List String} {members : List (String × Json)}
    {read : List (Option Json) → Option α} {a : α} (hnames : members.map Prod.fst = names)
    (hnodup : names.Nodup) (hread : read (members.map fun m => some m.2) = some a) :
    (fields? names (record members) >>= read) = some a := by
  subst hnames
  rw [fields?_record members hnodup]
  exact hread

/-- A field that is there is read as its form reads it. -/
@[simp]
theorem required_encode {α : Type} [JsonForm α] [LawfulJsonForm α] (a : α) :
    required (some (encode a)) = some a := LawfulJsonForm.decode?_encode a

/-- A field that may be missing, but is not. -/
@[simp]
theorem withDefault_encode {α : Type} [JsonForm α] [LawfulJsonForm α] (default a : α) :
    withDefault default (some (encode a)) = some a := LawfulJsonForm.decode?_encode a

/-! ## Variants -/

@[simp]
theorem unitVariant?_ofText (name : String) : unitVariant? (ofText name) = some name :=
  textOf?_escape name

@[simp]
theorem variant?_variant (name : String) (content : Json) :
    variant? (variant name content) = some (name, content) := by
  change (textOf? (Quoted.escape name.toList)).map (fun name => (name, content)) = _
  rw [textOf?_escape, Option.map_some]

theorem written_variant (name : String) {content : Json} (h : content.Written) :
    (variant name content).Written := written_record (by simpa using h)

instance : LawfulJsonForm Rounding where
  written r := by cases r <;> exact written_ofText _
  decode?_encode r := by cases r <;> simp [encode, decode?]

end Json

end LeveredBasket
