/-
Finite maps kept in the order of their keys.

A map is the list of its entries, sorted by key with no key twice. There is one
list for each set of entries, so two maps that answer every look-up alike are
equal (`FiniteMap.ext_get?`), and a claim about a final state can be stated as
an equation between states.

Everything about look-ups follows from four statements: what `get?` answers
after `insert` and after `erase`, at the key itself and at any other. Totals
over a map (`FiniteMap.total`) are natural numbers; `total_insert` says how one
write moves them.
-/
import LeveredBasket.Word

set_option autoImplicit false

namespace LeveredBasket

/-! ## Keys -/

/-- **A key type**: `before` is a strict total order on its values. -/
class Key (κ : Type) [DecidableEq κ] where
  /-- Whether the first key comes strictly before the second. -/
  before : κ → κ → Bool
  irrefl : ∀ a, before a a = false
  trans : ∀ {a b c}, before a b = true → before b c = true → before a c = true
  connected : ∀ {a b}, a ≠ b → before a b = true ∨ before b a = true

namespace Key

/-- Keys numbered without repetition are ordered by their numbers. -/
@[reducible]
def ofNat {κ : Type} [DecidableEq κ] (number : κ → Nat)
    (injective : ∀ {a b}, number a = number b → a = b) : Key κ where
  before a b := decide (number a < number b)
  irrefl _ := decide_eq_false (Nat.lt_irrefl _)
  trans h₁ h₂ := decide_eq_true (Nat.lt_trans (of_decide_eq_true h₁) (of_decide_eq_true h₂))
  connected {a b} h := by
    have hne : number a ≠ number b := fun e => h (injective e)
    exact (Nat.lt_or_gt_of_ne hne).imp decide_eq_true decide_eq_true

instance {bits : Nat} : Key (Word bits) := Key.ofNat Word.toNat Word.ext

instance : Key String where
  before a b := decide (a < b)
  irrefl a := decide_eq_false (String.lt_irrefl a)
  trans h₁ h₂ := by
    simp only [decide_eq_true_eq] at *
    exact String.lt_trans h₁ h₂
  connected {a b} h := by
    simp only [decide_eq_true_eq]
    by_cases hab : a < b
    · exact .inl hab
    · refine .inr ?_
      have hle : b ≤ a := String.not_lt.1 hab
      by_cases hba : b < a
      · exact hba
      · exact absurd (String.le_antisymm (String.not_lt.1 hba) hle) h

/-- Pairs are ordered by their first parts and, where those agree, by their second parts. -/
instance {α β : Type} [DecidableEq α] [DecidableEq β] [Key α] [Key β] : Key (α × β) where
  before a b := before a.1 b.1 || (decide (a.1 = b.1) && before a.2 b.2)
  irrefl a := by simp [irrefl]
  trans {a b c} h₁ h₂ := by
    simp only [Bool.or_eq_true, Bool.and_eq_true, decide_eq_true_eq] at *
    rcases h₁ with h₁ | ⟨e₁, h₁⟩ <;> rcases h₂ with h₂ | ⟨e₂, h₂⟩
    · exact .inl (trans h₁ h₂)
    · exact .inl (e₂ ▸ h₁)
    · exact .inl (e₁ ▸ h₂)
    · exact .inr ⟨e₁.trans e₂, trans h₁ h₂⟩
  connected {a b} h := by
    simp only [Bool.or_eq_true, Bool.and_eq_true, decide_eq_true_eq]
    by_cases e : a.1 = b.1
    · have hne : a.2 ≠ b.2 := fun e₂ => h (Prod.ext e e₂)
      rcases connected hne with h' | h'
      · exact .inl (.inr ⟨e, h'⟩)
      · exact .inr (.inr ⟨e.symm, h'⟩)
    · rcases connected e with h' | h'
      · exact .inl (.inl h')
      · exact .inr (.inl h')

variable {κ : Type} [DecidableEq κ] [Key κ]

theorem ne_of_before {a b : κ} (h : before a b = true) : a ≠ b := by
  rintro rfl
  simp [irrefl] at h

end Key

/-! ## Sorted entries -/

/-- **A finite map**: entries in strictly increasing order of their keys. -/
structure FiniteMap (κ ν : Type) [DecidableEq κ] [Key κ] where
  /-- The entries, each key once. -/
  entries : List (κ × ν)
  /-- They stand in the order of their keys. -/
  sorted : entries.Pairwise fun a b => Key.before a.1 b.1 = true

namespace FiniteMap

variable {κ ν : Type} [DecidableEq κ] [Key κ]

/-- The value in the entry of `k`. -/
def lookup (k : κ) : List (κ × ν) → Option ν
  | [] => none
  | e :: rest => if k = e.1 then some e.2 else lookup k rest

/-- Puts an entry in its place, over the one of the same key if there is one. -/
def insertEntry (k : κ) (v : ν) : List (κ × ν) → List (κ × ν)
  | [] => [(k, v)]
  | e :: rest =>
    if k = e.1 then (k, v) :: rest
    else if Key.before k e.1 then (k, v) :: e :: rest
    else e :: insertEntry k v rest

theorem mem_insertEntry {k : κ} {v : ν} {x : κ × ν} {es : List (κ × ν)}
    (h : x ∈ insertEntry k v es) : x = (k, v) ∨ x ∈ es := by
  induction es with
  | nil => simpa [insertEntry] using h
  | cons e rest ih =>
    unfold insertEntry at h
    split at h
    · rcases List.mem_cons.1 h with rfl | h
      · exact .inl rfl
      · exact .inr (List.mem_cons_of_mem _ h)
    · split at h
      · rcases List.mem_cons.1 h with rfl | h
        · exact .inl rfl
        · exact .inr h
      · rcases List.mem_cons.1 h with rfl | h
        · exact .inr List.mem_cons_self
        · exact (ih h).imp_right (List.mem_cons_of_mem _)

theorem sorted_insertEntry (k : κ) (v : ν) {es : List (κ × ν)}
    (h : es.Pairwise fun a b => Key.before a.1 b.1 = true) :
    (insertEntry k v es).Pairwise fun a b => Key.before a.1 b.1 = true := by
  induction es with
  | nil => simp [insertEntry]
  | cons e rest ih =>
    obtain ⟨hhead, htail⟩ := List.pairwise_cons.1 h
    unfold insertEntry
    split
    case isTrue heq => exact List.pairwise_cons.2 ⟨fun x hx => heq ▸ hhead x hx, htail⟩
    case isFalse hne =>
      split
      case isTrue hb =>
        refine List.pairwise_cons.2 ⟨fun x hx => ?_, h⟩
        rcases List.mem_cons.1 hx with rfl | hx
        · exact hb
        · exact Key.trans hb (hhead x hx)
      case isFalse hb =>
        refine List.pairwise_cons.2 ⟨fun x hx => ?_, ih htail⟩
        rcases mem_insertEntry hx with rfl | hx
        · exact (Key.connected hne).resolve_left hb
        · exact hhead x hx

/-! ## Maps -/

/-- The map with no entries. -/
def empty : FiniteMap κ ν := ⟨[], List.Pairwise.nil⟩

instance : Inhabited (FiniteMap κ ν) := ⟨empty⟩

instance [DecidableEq ν] : DecidableEq (FiniteMap κ ν) := fun a b =>
  decidable_of_iff (a.entries = b.entries) (by cases a; cases b; simp)

/-- The value at `k`, if there is one. -/
def get? (m : FiniteMap κ ν) (k : κ) : Option ν := lookup k m.entries

/-- The value at `k`, or `default` where there is none. -/
def getD (m : FiniteMap κ ν) (k : κ) (default : ν) : ν := (m.get? k).getD default

/-- Whether there is a value at `k`. -/
def contains (m : FiniteMap κ ν) (k : κ) : Bool := (m.get? k).isSome

/-- The map with `v` at `k` and all else as it was. -/
def insert (m : FiniteMap κ ν) (k : κ) (v : ν) : FiniteMap κ ν :=
  ⟨insertEntry k v m.entries, sorted_insertEntry k v m.sorted⟩

/-- The map with nothing at `k` and all else as it was. -/
def erase (m : FiniteMap κ ν) (k : κ) : FiniteMap κ ν :=
  ⟨m.entries.filter fun e => e.1 ≠ k, m.sorted.filter _⟩

/-- The map that has these entries, of two at one key the later. -/
def ofEntries (es : List (κ × ν)) : FiniteMap κ ν := es.foldl (fun m e => m.insert e.1 e.2) empty

/-- The sum of `f` over a list of entries. -/
def sumEntries (f : κ → ν → Nat) : List (κ × ν) → Nat
  | [] => 0
  | e :: rest => f e.1 e.2 + sumEntries f rest

/-- The sum of `f` over the entries. -/
def total (m : FiniteMap κ ν) (f : κ → ν → Nat) : Nat := sumEntries f m.entries

/-! ## Look-ups after writes -/

omit [Key κ] in
theorem lookup_eq_none {k : κ} {es : List (κ × ν)} (h : ∀ e ∈ es, k ≠ e.1) :
    lookup k es = none := by
  induction es with
  | nil => rfl
  | cons e rest ih =>
    simp only [lookup, if_neg (h e List.mem_cons_self)]
    exact ih fun x hx => h x (List.mem_cons_of_mem _ hx)

omit [Key κ] in
theorem mem_of_lookup {k : κ} {v : ν} {es : List (κ × ν)} (h : lookup k es = some v) :
    (k, v) ∈ es := by
  induction es with
  | nil => cases h
  | cons e rest ih =>
    unfold lookup at h
    split at h
    case isTrue hk =>
      obtain rfl := Option.some.inj h
      rw [hk]
      exact List.mem_cons_self
    case isFalse => exact List.mem_cons_of_mem _ (ih h)

/-- What is found is an entry. -/
theorem mem_entries_of_get? {m : FiniteMap κ ν} {k : κ} {v : ν} (h : m.get? k = some v) :
    (k, v) ∈ m.entries := mem_of_lookup h

theorem lookup_insertEntry_self (k : κ) (v : ν) (es : List (κ × ν)) :
    lookup k (insertEntry k v es) = some v := by
  induction es with
  | nil => simp [insertEntry, lookup]
  | cons e rest ih =>
    unfold insertEntry
    split
    · simp [lookup]
    · split
      · simp [lookup]
      · next hne _ => simp [lookup, hne, ih]

theorem lookup_insertEntry_of_ne {k k' : κ} (h : k' ≠ k) (v : ν) (es : List (κ × ν)) :
    lookup k' (insertEntry k v es) = lookup k' es := by
  induction es with
  | nil => simp [insertEntry, lookup, h]
  | cons e rest ih =>
    unfold insertEntry
    split
    · next heq => simp [lookup, heq ▸ h, h]
    · split
      · simp [lookup, h]
      · simp [lookup, ih]

@[simp]
theorem get?_empty (k : κ) : (empty : FiniteMap κ ν).get? k = none := rfl

@[simp]
theorem get?_insert_self (m : FiniteMap κ ν) (k : κ) (v : ν) : (m.insert k v).get? k = some v :=
  lookup_insertEntry_self k v m.entries

theorem get?_insert_of_ne (m : FiniteMap κ ν) {k k' : κ} (h : k' ≠ k) (v : ν) :
    (m.insert k v).get? k' = m.get? k' :=
  lookup_insertEntry_of_ne h v m.entries

theorem get?_insert (m : FiniteMap κ ν) (k k' : κ) (v : ν) :
    (m.insert k v).get? k' = if k' = k then some v else m.get? k' := by
  by_cases h : k' = k
  · simp [h]
  · simp [h, get?_insert_of_ne m h]

@[simp]
theorem get?_erase_self (m : FiniteMap κ ν) (k : κ) : (m.erase k).get? k = none :=
  lookup_eq_none fun e he heq => by
    have hne := (List.mem_filter.1 he).2
    exact absurd heq.symm (of_decide_eq_true hne)

omit [Key κ] in
theorem lookup_filter_of_ne {k k' : κ} (h : k' ≠ k) (es : List (κ × ν)) :
    lookup k' (es.filter fun e => e.1 ≠ k) = lookup k' es := by
  induction es with
  | nil => rfl
  | cons e rest ih =>
    by_cases he : e.1 = k
    · rw [List.filter_cons_of_neg (by simp [he]), ih]
      simp [lookup, he, h]
    · rw [List.filter_cons_of_pos (by simp [he])]
      simp only [lookup, ih]

theorem get?_erase_of_ne (m : FiniteMap κ ν) {k k' : κ} (h : k' ≠ k) :
    (m.erase k).get? k' = m.get? k' :=
  lookup_filter_of_ne h m.entries

/-! ## Equality -/

theorem lookup_eq_none_of_before {k : κ} {es : List (κ × ν)}
    (h : ∀ e ∈ es, Key.before k e.1 = true) : lookup k es = none :=
  lookup_eq_none fun e he => Key.ne_of_before (h e he)

/-- Sorted lists of entries that answer every look-up alike are the same list. -/
theorem entries_eq_of_lookup {es fs : List (κ × ν)}
    (hes : es.Pairwise fun a b => Key.before a.1 b.1 = true)
    (hfs : fs.Pairwise fun a b => Key.before a.1 b.1 = true)
    (h : ∀ k, lookup k es = lookup k fs) : es = fs := by
  induction es generalizing fs with
  | nil =>
    cases fs with
    | nil => rfl
    | cons f _ => simpa [lookup] using h f.1
  | cons e es ih =>
    obtain ⟨hhead, htail⟩ := List.pairwise_cons.1 hes
    cases fs with
    | nil => simpa [lookup] using h e.1
    | cons f fs =>
      obtain ⟨hhead', htail'⟩ := List.pairwise_cons.1 hfs
      have hkey : e.1 = f.1 := by
        refine Decidable.byContradiction fun hne => ?_
        rcases Key.connected hne with hb | hb
        · have hnone : lookup e.1 (f :: fs) = none := lookup_eq_none_of_before fun x hx => by
            rcases List.mem_cons.1 hx with rfl | hx
            · exact hb
            · exact Key.trans hb (hhead' x hx)
          rw [← h] at hnone
          simp [lookup] at hnone
        · have hnone : lookup f.1 (e :: es) = none := lookup_eq_none_of_before fun x hx => by
            rcases List.mem_cons.1 hx with rfl | hx
            · exact hb
            · exact Key.trans hb (hhead x hx)
          rw [h] at hnone
          simp [lookup] at hnone
      have hval : e.2 = f.2 := by
        have := h e.1
        simpa [lookup, hkey] using this
      have hrest : es = fs := ih htail htail' fun k => by
        by_cases hk : k = e.1
        · rw [hk, lookup_eq_none_of_before hhead, hkey, lookup_eq_none_of_before hhead']
        · have := h k
          simpa [lookup, hk, hkey ▸ hk] using this
      rw [hrest, Prod.ext hkey hval]

/-- **Maps are what they answer.** -/
theorem ext_get? {m m' : FiniteMap κ ν} (h : ∀ k, m.get? k = m'.get? k) : m = m' := by
  cases m with
  | mk es hes =>
    cases m' with
    | mk fs hfs =>
      have : es = fs := entries_eq_of_lookup hes hfs h
      subst this
      rfl

/-- Of two writes at one key the later counts. -/
@[simp]
theorem insert_insert (m : FiniteMap κ ν) (k : κ) (v w : ν) :
    (m.insert k v).insert k w = m.insert k w := by
  refine ext_get? fun k' => ?_
  by_cases h : k' = k
  · simp [h]
  · simp only [get?_insert_of_ne _ h]

/-- Writes at different keys can be made in either order. -/
theorem insert_comm (m : FiniteMap κ ν) {k k' : κ} (h : k ≠ k') (v v' : ν) :
    (m.insert k v).insert k' v' = (m.insert k' v').insert k v := by
  refine ext_get? fun x => ?_
  simp only [get?_insert]
  by_cases hx : x = k
  · have hne : x ≠ k' := hx ▸ h
    rw [if_neg hne, if_pos hx, if_pos hx]
  · rw [if_neg hx, if_neg hx]

/-- Writing what is there changes nothing. -/
theorem insert_of_get? {m : FiniteMap κ ν} {k : κ} {v : ν} (h : m.get? k = some v) :
    m.insert k v = m := by
  refine ext_get? fun k' => ?_
  by_cases hk : k' = k
  · rw [hk, get?_insert_self, h]
  · rw [get?_insert_of_ne m hk]

/-! ## Entries -/

/-- No key has two entries. -/
theorem nodup_keys (m : FiniteMap κ ν) : (m.entries.map Prod.fst).Nodup :=
  List.pairwise_map.2 (m.sorted.imp fun h => Key.ne_of_before h)

omit [Key κ] in
theorem lookup_of_mem {es : List (κ × ν)} (hnodup : (es.map Prod.fst).Nodup) {k : κ} {v : ν}
    (h : (k, v) ∈ es) : lookup k es = some v := by
  induction es with
  | nil => cases h
  | cons e es ih =>
    rw [List.map_cons, List.nodup_cons] at hnodup
    obtain ⟨hnew, hnodup⟩ := hnodup
    rcases List.mem_cons.1 h with rfl | h
    · exact if_pos rfl
    · have hne : k ≠ e.1 := fun heq => hnew (heq ▸ List.mem_map_of_mem h)
      rw [lookup, if_neg hne, ih hnodup h]

/-- The entries are what is found. -/
theorem get?_eq_some_iff {m : FiniteMap κ ν} {k : κ} {v : ν} :
    m.get? k = some v ↔ (k, v) ∈ m.entries :=
  ⟨mem_entries_of_get?, lookup_of_mem m.nodup_keys⟩

theorem get?_foldl_insert {es : List (κ × ν)} (hnodup : (es.map Prod.fst).Nodup)
    (m : FiniteMap κ ν) (k : κ) (v : ν) :
    (es.foldl (fun m e => m.insert e.1 e.2) m).get? k = some v ↔
      (k, v) ∈ es ∨ k ∉ es.map Prod.fst ∧ m.get? k = some v := by
  induction es generalizing m with
  | nil => simp
  | cons e es ih =>
    rw [List.map_cons, List.nodup_cons] at hnodup
    obtain ⟨hnew, hnodup⟩ := hnodup
    rw [List.foldl_cons, ih hnodup, get?_insert]
    by_cases hk : k = e.1
    · subst hk
      have hlater : (e.1, v) ∉ es := fun h => hnew (List.mem_map.2 ⟨_, h, rfl⟩)
      simp [hnew, hlater, Prod.ext_iff, eq_comm]
    · simp [hk, Prod.ext_iff]

/-- Where no key comes twice, all of them are found. -/
theorem mem_ofEntries {es : List (κ × ν)} (hnodup : (es.map Prod.fst).Nodup) (e : κ × ν) :
    e ∈ (ofEntries es).entries ↔ e ∈ es := by
  rw [← get?_eq_some_iff, ofEntries, get?_foldl_insert hnodup]
  simp

/-! ## Totals -/

theorem sum_insertEntry (f : κ → ν → Nat) (k : κ) (v : ν) (es : List (κ × ν)) :
    es.Pairwise (fun a b => Key.before a.1 b.1 = true) →
    sumEntries f (insertEntry k v es) + (lookup k es).elim 0 (f k) =
      sumEntries f es + f k v := by
  induction es with
  | nil => intro _; simp [insertEntry, lookup, sumEntries]
  | cons e rest ih =>
    intro hs
    obtain ⟨hhead, htail⟩ := List.pairwise_cons.1 hs
    unfold insertEntry
    split
    case isTrue heq =>
      simp only [lookup, heq, if_true, sumEntries, Option.elim]
      omega
    case isFalse hne =>
      split
      case isTrue hb =>
        have hnone : lookup k (e :: rest) = none := lookup_eq_none_of_before fun x hx => by
          rcases List.mem_cons.1 hx with rfl | hx
          · exact hb
          · exact Key.trans hb (hhead x hx)
        simp only [hnone, sumEntries, Option.elim]
        omega
      case isFalse hb =>
        have := ih htail
        simp only [lookup, hne, if_false, sumEntries]
        omega

/-- A write adds what the new value counts for and takes away what the old one did. -/
theorem total_insert (m : FiniteMap κ ν) (f : κ → ν → Nat) (k : κ) (v : ν) :
    (m.insert k v).total f + (m.get? k).elim 0 (f k) = m.total f + f k v :=
  sum_insertEntry f k v m.entries m.sorted

@[simp]
theorem total_empty (f : κ → ν → Nat) : (empty : FiniteMap κ ν).total f = 0 := rfl

theorem getD_insert (m : FiniteMap κ ν) (k k' : κ) (v d : ν) :
    (m.insert k v).getD k' d = if k' = k then v else m.getD k' d := by
  unfold getD
  rw [get?_insert]
  split <;> rfl

/-- The same for a map with a default that counts for nothing. -/
theorem total_insert_getD (m : FiniteMap κ ν) (f : κ → ν → Nat) (k : κ) (v : ν) {d : ν}
    (hd : f k d = 0) : (m.insert k v).total f + f k (m.getD k d) = m.total f + f k v := by
  rw [← total_insert m f k v]
  unfold getD
  cases m.get? k with
  | none => simp [hd]
  | some v => rfl

omit [DecidableEq κ] [Key κ] in
theorem sumEntries_div_mul_le (f : κ → ν → Nat) (d : Nat) (es : List (κ × ν)) :
    sumEntries (fun k v => f k v / d) es * d ≤ sumEntries f es := by
  induction es with
  | nil => simp [sumEntries]
  | cons e rest ih =>
    simp only [sumEntries, Nat.add_mul]
    exact Nat.add_le_add (Nat.div_mul_le_self _ d) ih

/-- Quotients that round down leave out of the numerators what they do, and never add to them. -/
theorem total_div_mul_le (m : FiniteMap κ ν) (f : κ → ν → Nat) (d : Nat) :
    (m.total fun k v => f k v / d) * d ≤ m.total f := sumEntries_div_mul_le f d m.entries

omit [DecidableEq κ] [Key κ] in
theorem sumEntries_mul (f : κ → ν → Nat) (c : Nat) (es : List (κ × ν)) :
    sumEntries (fun k v => f k v * c) es = sumEntries f es * c := by
  induction es with
  | nil => simp [sumEntries]
  | cons e rest ih => simp only [sumEntries, ih, Nat.add_mul]

/-- A common factor can be taken out of a total. -/
theorem total_mul (m : FiniteMap κ ν) (f : κ → ν → Nat) (c : Nat) :
    (m.total fun k v => f k v * c) = m.total f * c := sumEntries_mul f c m.entries

/-- No value counts for more than all of them. -/
theorem le_total_getD (m : FiniteMap κ ν) (f : κ → ν → Nat) (k : κ) {d : ν} (hd : f k d = 0) :
    f k (m.getD k d) ≤ m.total f := by
  have h := total_insert_getD m f k d hd
  omega

end FiniteMap

end LeveredBasket
