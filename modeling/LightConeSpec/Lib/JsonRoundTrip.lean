import LightConeSpec.Lib.Encodings
import LightConeSpec.Lib.JsonDecoding

/-!
# What is encoded is decoded

For plain values: their strings are printable ASCII without quotes and backslashes, their numbers
are natural, and the keys of an object are in order. The decoder that reads the text of a plain
value on some stack of open containers has that value on that stack, `run_encode`; the induction
is on the value.

The text of an object does not depend on the order of its fields.
-/

namespace Json

open Python List

variable {floatRepr : Text → Option Text} {limit depth : ℕ} {v : Json}

/-! ## Encoding the parts of a container -/

theorem encodeItems_eq (items : List Json) :
    encodeItems floatRepr items = items.map (encode floatRepr) := by
  induction items with
  | nil => rfl
  | cons v rest ih =>
    unfold encodeItems
    rw [ih]
    rfl

theorem encodeFields_eq (items : List (Text × Json)) :
    encodeFields floatRepr items = items.map fun field => (field.1, encode floatRepr field.2) := by
  induction items with
  | nil => rfl
  | cons field rest ih =>
    unfold encodeFields
    rw [ih]
    rfl

theorem checkItems_eq (items : List Json) (depth : ℕ) :
    checkItems floatRepr items depth = items.map fun v => check floatRepr v depth := by
  induction items with
  | nil => rfl
  | cons v rest ih =>
    unfold checkItems
    rw [ih]
    rfl

theorem checkFields_eq (items : List (Text × Json)) (depth : ℕ) : checkFields floatRepr items depth
      = items.map fun field => (field.1, check floatRepr field.2 depth) := by
  induction items with
  | nil => rfl
  | cons field rest ih =>
    unfold checkFields
    rw [ih]
    rfl

variable {stack : List Frame} {items : List (Text × Json)}

/-- The order of the fields does not matter. -/
theorem encode_obj_congr {items' : List (Text × Json)} (hdistinct : (items.map Prod.fst).Nodup)
    (hperm : items.Perm items') :
    encode floatRepr (.obj items) = encode floatRepr (.obj items') := by
  have hsorted : sortedBy Prod.fst (encodeFields floatRepr items)
      = sortedBy Prod.fst (encodeFields floatRepr items') := by
    rw [encodeFields_eq, encodeFields_eq]
    refine sortedBy_congr ?_ (hperm.map _)
    rw [map_map]
    exact hdistinct
  unfold encode
  rw [hsorted]

theorem check_arr_eq_ok {items : List Json} : check floatRepr (.arr items) depth = .ok () ↔
      ∃ n, depth = n + 1 ∧ ∀ v ∈ items, check floatRepr v n = .ok () := by
  cases depth with
  | zero => simp [check]
  | succ n => simp [check, checkItems_eq]

theorem check_obj_eq_ok : check floatRepr (.obj items) depth = .ok () ↔
      ∃ n, depth = n + 1 ∧ ∀ field ∈ items, check floatRepr field.2 n = .ok () := by
  cases depth with
  | zero => simp [check]
  | succ n =>
    simp only [check, checkFields_eq, forEach_eq_ok, mem_sortedBy, forall_mem_map,
      Nat.add_right_cancel_iff, exists_eq_left']

/-! ## Plain values -/

/-- Printable ASCII that is written as it is. -/
def IsPlainChar (c : ℕ) : Prop := 0x20 ≤ c ∧ c ≤ 0x7E ∧ c ≠ '"'.toNat ∧ c ≠ '\\'.toNat

instance (c : ℕ) : Decidable (IsPlainChar c) := inferInstanceAs (Decidable (_ ∧ _))

def IsPlainText (s : Text) : Prop := ∀ c ∈ s, IsPlainChar c

instance (s : Text) : Decidable (IsPlainText s) := inferInstanceAs (Decidable (∀ c ∈ s, _))

inductive Plain : Json → Prop
  | null : Plain .null
  | bool (b : Bool) : Plain (.bool b)
  | nat (n : ℕ) (h : (natText n).length ≤ 4300) : Plain (.int n)
  | str {s : Text} (h : IsPlainText s) : Plain (.str s)
  | arr {items : List Json} (h : ∀ v ∈ items, Plain v) : Plain (.arr items)
  | obj {items : List (Text × Json)} (hkeys : ∀ field ∈ items, IsPlainText field.1)
      (hsorted : (items.map Prod.fst).Pairwise (· < ·)) (h : ∀ field ∈ items, Plain field.2) :
      Plain (.obj items)

theorem encodeString_plain {s : Text} (h : IsPlainText s) :
    encodeString s = '"'.toNat :: (s ++ ['"'.toNat]) := by
  have hescape : s.flatMap escape = s := by
    induction s with
    | nil => rfl
    | cons c rest ih =>
      have hc := h c mem_cons_self
      have hrest := ih fun x hx => h x (mem_cons_of_mem _ hx)
      rcases hc with ⟨hlow, hhigh, hquote, hbackslash⟩
      have hself : escape c = [c] := by
        unfold escape
        rw [if_neg (by tauto), if_neg (by omega), if_neg (by omega), if_neg (by omega),
          if_neg (by omega), if_neg (by omega), if_pos ⟨hlow, hhigh⟩]
      rw [flatMap_cons, hrest, hself]
      rfl
  unfold encodeString
  rw [hescape]

/-- An object whose keys are in order is written in its order. -/
theorem encode_obj_sorted (hsorted : (items.map Prod.fst).Pairwise (· < ·)) :
    sortedBy Prod.fst (encodeFields floatRepr items) = encodeFields floatRepr items := by
  have hkeys : (encodeFields floatRepr items).Pairwise fun a b => a.1 ≤ b.1 := by
    rw [encodeFields_eq, pairwise_map]
    rw [pairwise_map] at hsorted
    exact hsorted.imp le_of_lt
  exact hkeys.insertionSort_eq

/-! ## Reading strings and numbers -/

/-- The state has read `v` inside the containers of `stack`: it goes on, and ends, as behind the
value. -/
structure Holds (limit : ℕ) (st : State) (stack : List Frame) (v : Json) : Prop where
  next : ∀ c, c = ','.toNat ∨ c = ']'.toNat ∨ c = '\x7d'.toNat →
    step limit st c = afterValue stack v c
  finish : stack = [] → finish st = .ok v

theorem holds_after (limit : ℕ) (stack : List Frame) (v : Json) :
    Holds limit ⟨stack, .after v⟩ stack v := by
  refine ⟨fun _ _ => rfl, ?_⟩
  rintro rfl
  rfl

theorem holds_number {part : NumberPart} {text : Text} (hpart : part = .zero ∨ part = .int)
    (hvalue : finishNumber part text.reverse = .ok v) :
    Holds limit ⟨stack, .number part text⟩ stack v := by
  constructor
  · intro c hc
    have hend : part.next c = none := by
      rcases hpart with rfl | rfl
      · rcases hc with rfl | rfl | rfl
        · rfl
        · rfl
        · rfl
      · rcases hc with rfl | rfl | rfl
        · rfl
        · rfl
        · rfl
    simp only [step, hend, hvalue]
    rfl
  · rintro rfl
    exact hvalue

variable (limit) in
/-- A plain text inside a string. -/
theorem run_chars {s : Text} (h : IsPlainText s) (stack : List Frame) (chars : Text) (high : Bool) :
    ∃ high', run limit ⟨stack, .string chars high⟩ s
      = .ok ⟨stack, .string (s.reverse ++ chars) high'⟩ := by
  induction s generalizing chars high with
  | nil => exact ⟨high, rfl⟩
  | cons c rest ih =>
    rcases h c mem_cons_self with ⟨hlow, -, hquote, hbackslash⟩
    have hstep : step limit ⟨stack, .string chars high⟩ c
        = .ok ⟨stack, .string (c :: chars) false⟩ := by
      simp only [step]
      rw [if_neg hquote, if_neg hbackslash, if_neg (by omega)]
    rcases ih (fun x hx => h x (mem_cons_of_mem _ hx)) (c :: chars) false with ⟨high', hrun⟩
    refine ⟨high', ?_⟩
    unfold run
    rw [hstep]
    refine hrun.trans ?_
    rw [reverse_cons, append_assoc]
    rfl

/-- A plain string behind its first quote. -/
theorem run_string {s : Text} (h : IsPlainText s) (stack : List Frame) :
    run limit ⟨stack, .string [] false⟩ (s ++ ['"'.toNat]) = .ok (closeString stack s) := by
  rcases run_chars limit h stack [] false with ⟨high', hrun⟩
  rw [run_append_ok hrun]
  unfold run
  simp only [step, if_true, append_nil, reverse_reverse]
  rfl

/-! ### Natural numbers -/

variable {n : ℕ}

theorem natText_of_lt (h : n < 10) : natText n = ['0'.toNat + n] := by
  unfold natText
  rw [Nat.toDigits_of_lt_base h, map_singleton, Nat.toNat_digitChar_of_lt_ten h]
  rfl

theorem natText_of_le (h : 10 ≤ n) : natText n = natText (n / 10) ++ ['0'.toNat + n % 10] := by
  unfold natText
  rw [Nat.toDigits_of_base_le (by decide) h, map_append, map_singleton,
    Nat.toNat_digitChar_of_lt_ten (Nat.mod_lt n (by decide))]
  rfl

theorem isDigit_add {d : ℕ} (h : d < 10) : isDigit ('0'.toNat + d) = true := by
  simp only [isDigit, Bool.and_eq_true, decide_eq_true_eq]
  have hzero : '0'.toNat = 48 := rfl
  have hnine : '9'.toNat = 57 := rfl
  omega

theorem mem_natText {c : ℕ} (h : c ∈ natText n) : isDigit c = true := by
  induction n using Nat.strong_induction_on with
  | h n ih =>
    by_cases hn : n < 10
    · rw [natText_of_lt hn, mem_singleton] at h
      rw [h]
      exact isDigit_add hn
    · rw [natText_of_le (by omega), mem_append, mem_singleton] at h
      rcases h with h | h
      · exact ih (n / 10) (by omega) h
      · rw [h]
        exact isDigit_add (Nat.mod_lt n (by decide))

theorem decimalValue_natText (n : ℕ) : decimalValue (natText n) = n := by
  unfold decimalValue natText
  rw [foldl_map]
  exact Nat.ofDigitChars_toDigits (by decide) (by decide)

theorem natText_ne_nil (n : ℕ) : natText n ≠ [] := by
  unfold natText
  simp

theorem intOfText_natText (h : (natText n).length ≤ 4300) :
    intOfText (natText n) = .ok (.int n) := by
  cases htext : natText n with
  | nil => exact absurd htext (natText_ne_nil n)
  | cons c rest =>
    have hdigit : isDigit c = true := mem_natText (n := n) (by rw [htext]; exact mem_cons_self)
    have hminus : c ≠ '-'.toNat := by
      rintro rfl
      cases hdigit
    have hdrop : (c :: rest).dropWhile (· == '-'.toNat) = c :: rest := by
      rw [dropWhile_cons, if_neg (by simpa using hminus)]
    have hhead : (c :: rest).head? ≠ some '-'.toNat := by simpa using hminus
    unfold intOfText
    rw [hdrop, if_pos (htext ▸ h), if_neg hhead, ← htext, decimalValue_natText]

theorem startValue_digit {c : ℕ} (h : isDigit c = true) (hzero : c ≠ '0'.toNat)
    (stack : List Frame) : startValue limit stack c = .ok ⟨stack, .number .int [c]⟩ := by
  have hne : ∀ other, isDigit other = false → c ≠ other := by
    rintro other hother rfl
    exact nomatch h.symm.trans hother
  unfold startValue
  rw [if_neg (hne _ rfl), if_neg (hne _ rfl), if_neg (hne _ rfl), if_neg (hne _ rfl), if_neg hzero,
    if_pos h]

/-- A natural number that is not zero. -/
theorem run_natText (hn : 0 < n) (stack : List Frame) :
    run limit ⟨stack, .value⟩ (natText n) = .ok ⟨stack, .number .int (natText n).reverse⟩ := by
  induction n using Nat.strong_induction_on with
  | h n ih =>
    by_cases hlt : n < 10
    · have hdigit : isDigit ('0'.toNat + n) = true := isDigit_add hlt
      have hspace : isSpace ('0'.toNat + n) = false := by
        have hzero : '0'.toNat = 48 := rfl
        simp only [isSpace, Bool.or_eq_false_iff, beq_eq_false_iff_ne]
        omega
      rw [natText_of_lt hlt]
      unfold run
      simp only [step, hspace, Bool.false_eq_true, if_false]
      rw [startValue_digit hdigit (by omega)]
      rfl
    · rw [natText_of_le (by omega), run_append_ok (ih (n / 10) (by omega) (by omega))]
      have hdigit : isDigit ('0'.toNat + n % 10) = true := isDigit_add (Nat.mod_lt n (by decide))
      unfold run
      simp only [step, NumberPart.next, hdigit, if_true, reverse_append]
      rfl

theorem run_nat (h : (natText n).length ≤ 4300) (stack : List Frame) :
    ∃ st, run limit ⟨stack, .value⟩ (natText n) = .ok st ∧ Holds limit st stack (.int n) := by
  rcases Nat.eq_zero_or_pos n with rfl | hn
  · exact ⟨⟨stack, .number .zero ['0'.toNat]⟩, rfl, holds_number (.inl rfl) rfl⟩
  · refine ⟨_, run_natText hn stack, holds_number (.inr rfl) ?_⟩
    rw [reverse_reverse]
    exact intOfText_natText h

/-! ## Reading values -/

/-- A value follows: no object waits for a key. -/
def AwaitsValue (stack : List Frame) : Prop :=
  ∀ before rest, stack ≠ .object before none :: rest

/-- The text of the value is read as the value, on every stack that leaves room for it. -/
def Reads (floatRepr : Text → Option Text) (limit depth : ℕ) (v : Json) : Prop :=
  ∀ stack : List Frame, AwaitsValue stack → stack.length + depth ≤ limit →
    ∃ st, run limit ⟨stack, .value⟩ (encode floatRepr v) = .ok st ∧ Holds limit st stack v

variable (floatRepr) in
/-- A text that begins a value. -/
theorem encode_head (h : Plain v) :
    ∃ c rest, encode floatRepr v = c :: rest ∧ isSpace c = false ∧ c ≠ ']'.toNat := by
  cases h with
  | null => exact ⟨_, _, rfl, rfl, by decide⟩
  | bool b =>
    cases b with
    | false => exact ⟨_, _, rfl, rfl, by decide⟩
    | true => exact ⟨_, _, rfl, rfl, by decide⟩
  | nat n h =>
    cases htext : natText n with
    | nil => exact absurd htext (natText_ne_nil n)
    | cons c rest =>
      have hdigit : isDigit c = true :=
        mem_natText (n := n) (by rw [htext]; exact mem_cons_self)
      refine ⟨c, rest, htext, ?_, ?_⟩
      · simp only [isDigit, Bool.and_eq_true, decide_eq_true_eq, Char.toNat] at hdigit
        have hlow : 48 ≤ c := hdigit.1
        simp only [isSpace, Bool.or_eq_false_iff, beq_eq_false_iff_ne]
        omega
      · rintro rfl
        cases hdigit
  | str h => exact ⟨_, _, rfl, rfl, by decide⟩
  | arr h => exact ⟨_, _, rfl, rfl, by decide⟩
  | obj hkeys hsorted h => exact ⟨_, _, rfl, rfl, by decide⟩

/-- The first item of an array is read as any other. -/
theorem run_firstItem (h : Plain v) (stack : List Frame) (more : Text) :
    run limit ⟨stack, .firstItem⟩ (encode floatRepr v ++ more)
      = run limit ⟨stack, .value⟩ (encode floatRepr v ++ more) := by
  rcases encode_head floatRepr h with ⟨c, rest, htext, hspace, hbracket⟩
  rw [htext]
  simp only [cons_append, run, step, hspace, hbracket, Bool.false_eq_true, if_false]

/-- The items of an array, from one of them to the bracket. -/
theorem run_items (hroom : stack.length + 1 + depth ≤ limit) (first : Json)
    (rest before : List Json) (h : ∀ x ∈ first :: rest, Reads floatRepr limit depth x) :
    run limit ⟨.array before :: stack, .value⟩
        ([','.toNat].intercalate (encodeItems floatRepr (first :: rest)) ++ [']'.toNat])
      = .ok ⟨stack, .after (.arr (before.reverse ++ first :: rest))⟩ := by
  induction rest generalizing first before with
  | nil =>
    rcases h first mem_cons_self (.array before :: stack) nofun hroom with ⟨st, hrun, hholds⟩
    have htext : [','.toNat].intercalate (encodeItems floatRepr [first])
        = encode floatRepr first := intercalate_singleton
    rw [htext, run_append_ok hrun]
    unfold run
    rw [hholds.next _ (.inr (.inl rfl))]
    simp [afterValue, isSpace, run, bind, Except.bind]
  | cons second rest ih =>
    rcases h first mem_cons_self (.array before :: stack) nofun hroom with ⟨st, hrun, hholds⟩
    have htext : [','.toNat].intercalate (encodeItems floatRepr (first :: second :: rest))
        = encode floatRepr first ++
          (','.toNat :: [','.toNat].intercalate (encodeItems floatRepr (second :: rest))) := by
      rw [encodeItems_eq, encodeItems_eq, map_cons, map_cons,
        intercalate_cons_cons, append_assoc]
      rfl
    have hrest := ih second (first :: before) fun x hx => h x (mem_cons_of_mem _ hx)
    rw [htext, append_assoc, run_append_ok hrun, cons_append]
    unfold run
    rw [hholds.next _ (.inl rfl)]
    refine hrest.trans ?_
    rw [reverse_cons, append_assoc]
    rfl

/-- One field of an object. -/
theorem run_field (hroom : stack.length + 1 + depth ≤ limit) (before : List (Text × Json))
    {field : Text × Json} (hkey : IsPlainText field.1)
    (hvalue : Reads floatRepr limit depth field.2) :
    ∃ st, run limit ⟨.object before none :: stack, .key⟩
          (fieldText (field.1, encode floatRepr field.2)) = .ok st ∧
        Holds limit st (.object before (some field.1) :: stack) field.2 := by
  rcases hvalue (.object before (some field.1) :: stack) nofun hroom with ⟨st, hrun, hholds⟩
  refine ⟨st, ?_, hholds⟩
  have hstring : run limit ⟨.object before none :: stack, .key⟩
      ('"'.toNat :: (field.1 ++ ['"'.toNat]))
      = .ok ⟨.object before (some field.1) :: stack, .colon⟩ :=
    run_string hkey (.object before none :: stack)
  unfold fieldText
  rw [encodeString_plain hkey, run_append_ok hstring]
  exact hrun

/-- The end of an object with distinct keys. -/
theorem step_closeObject {before : List (Text × Json)} {field : Text × Json} {st : State}
    (hholds : Holds limit st (.object before (some field.1) :: stack) field.2)
    (hdistinct : ((before.reverse ++ [field]).map Prod.fst).Nodup) :
    step limit st '\x7d'.toNat = .ok ⟨stack, .after (.obj (before.reverse ++ [field]))⟩ := by
  rw [hholds.next _ (.inr (.inr rfl))]
  show closeObject stack (field :: before).reverse = _
  unfold closeObject
  rw [reverse_cons, if_pos hdistinct]

/-- The fields of an object, from one of them to the bracket. -/
theorem run_fields (hroom : stack.length + 1 + depth ≤ limit) (first : Text × Json)
    (rest before : List (Text × Json)) (hkeys : ∀ field ∈ first :: rest, IsPlainText field.1)
    (hdistinct : ((before.reverse ++ first :: rest).map Prod.fst).Nodup)
    (h : ∀ field ∈ first :: rest, Reads floatRepr limit depth field.2) :
    run limit ⟨.object before none :: stack, .key⟩
        ([','.toNat].intercalate ((encodeFields floatRepr (first :: rest)).map fieldText) ++
          ['\x7d'.toNat]) = .ok ⟨stack, .after (.obj (before.reverse ++ first :: rest))⟩ := by
  induction rest generalizing first before with
  | nil =>
    rcases run_field hroom before (hkeys first mem_cons_self)
      (h first mem_cons_self) with ⟨st, hrun, hholds⟩
    have htext : [','.toNat].intercalate ((encodeFields floatRepr [first]).map fieldText)
        = fieldText (first.1, encode floatRepr first.2) := intercalate_singleton
    rw [htext, run_append_ok hrun]
    unfold run
    rw [step_closeObject hholds hdistinct]
    rfl
  | cons second rest ih =>
    rcases run_field hroom before (hkeys first mem_cons_self)
      (h first mem_cons_self) with ⟨st, hrun, hholds⟩
    have htext : [','.toNat].intercalate
          ((encodeFields floatRepr (first :: second :: rest)).map fieldText)
        = fieldText (first.1, encode floatRepr first.2) ++
          (','.toNat :: [','.toNat].intercalate
            ((encodeFields floatRepr (second :: rest)).map fieldText)) := by
      rw [encodeFields_eq, encodeFields_eq, map_cons, map_cons, map_cons,
        map_cons, intercalate_cons_cons, append_assoc]
      rfl
    have hrest := ih second (first :: before)
      (fun x hx => hkeys x (mem_cons_of_mem _ hx))
      (by rw [reverse_cons, append_assoc]; exact hdistinct)
      fun x hx => h x (mem_cons_of_mem _ hx)
    rw [htext, append_assoc, run_append_ok hrun, cons_append]
    unfold run
    rw [hholds.next _ (.inl rfl)]
    refine hrest.trans ?_
    rw [reverse_cons, append_assoc]
    rfl

/-- The bracket of an object and its first key. -/
theorem run_firstKey (stack : List Frame) (field : Text × Text) (rest : List (Text × Text))
    (more : Text) : run limit ⟨stack, .firstKey⟩
        ([','.toNat].intercalate ((field :: rest).map fieldText) ++ more) = run limit ⟨stack, .key⟩
        ([','.toNat].intercalate ((field :: rest).map fieldText) ++ more) := by
  have hquote : ∃ text, [','.toNat].intercalate ((field :: rest).map fieldText)
      = '"'.toNat :: text := by
    cases rest with
    | nil => exact ⟨_, intercalate_singleton⟩
    | cons second rest => exact ⟨_, intercalate_cons_cons⟩
  rcases hquote with ⟨text, htext⟩
  rw [htext]
  rfl

theorem closeString_value (h : AwaitsValue stack) (chars : Text) :
    closeString stack chars = ⟨stack, .after (.str chars)⟩ := by
  unfold closeString
  split
  · exact absurd rfl (h _ _)
  · rfl

/-- A container is opened where there is room for it. -/
theorem enter_of_lt (h : stack.length < limit) (frame : Frame) (mode : Mode) :
    enter limit stack frame mode = .ok ⟨frame :: stack, mode⟩ :=
  if_pos h

/-- The text of a plain value that the encoder accepts is read as the value. -/
theorem run_encode (h : Plain v) (hcheck : check floatRepr v depth = .ok ()) :
    Reads floatRepr limit depth v := by
  induction h generalizing depth with
  | null => exact fun stack _ _ => ⟨_, rfl, holds_after limit stack _⟩
  | bool b =>
    cases b with
    | false => exact fun stack _ _ => ⟨_, rfl, holds_after limit stack _⟩
    | true => exact fun stack _ _ => ⟨_, rfl, holds_after limit stack _⟩
  | nat n h => exact fun stack _ _ => run_nat h stack
  | @str s h =>
    intro stack hawaits _
    refine ⟨⟨stack, .after (.str s)⟩, ?_, holds_after limit stack _⟩
    show run limit ⟨stack, .value⟩ (encodeString s) = _
    rw [encodeString_plain h, ← closeString_value hawaits s]
    exact run_string h stack
  | @arr items h ih =>
    intro stack _ hroom
    rcases check_arr_eq_ok.mp hcheck with ⟨n, rfl, hitems⟩
    have hlt : stack.length < limit := by omega
    have hinside : stack.length + 1 + n ≤ limit := by omega
    refine ⟨⟨stack, .after (.arr items)⟩, ?_, holds_after limit stack _⟩
    have hopen : ∀ more, run limit ⟨stack, .value⟩ ('['.toNat :: more)
        = run limit ⟨.array [] :: stack, .firstItem⟩ more := by
      intro more
      show (enter limit stack (.array []) .firstItem >>= fun st => run limit st more) = _
      rw [enter_of_lt hlt]
      rfl
    refine (hopen _).trans ?_
    cases items with
    | nil => rfl
    | cons first rest =>
      have hreads : ∀ x ∈ first :: rest, Reads floatRepr limit n x :=
        fun x hx => ih x hx (hitems x hx)
      have hfirst : ∃ more, [','.toNat].intercalate (encodeItems floatRepr (first :: rest))
          = encode floatRepr first ++ more := by
        rw [encodeItems_eq]
        cases rest with
        | nil => exact ⟨[], by rw [append_nil]; exact intercalate_singleton⟩
        | cons second rest =>
          exact ⟨_, by rw [map_cons, map_cons, intercalate_cons_cons,
            append_assoc]⟩
      rcases hfirst with ⟨more, hmore⟩
      have hrun := run_items hinside first rest [] hreads
      rw [hmore, append_assoc] at hrun ⊢
      -- the text of an item does not begin with a bracket that closes the list
      rw [run_firstItem (h first mem_cons_self)]
      exact hrun
  | @obj items hkeys hsorted h ih =>
    intro stack _ hroom
    rcases check_obj_eq_ok.mp hcheck with ⟨n, rfl, hfields⟩
    have hlt : stack.length < limit := by omega
    have hinside : stack.length + 1 + n ≤ limit := by omega
    refine ⟨⟨stack, .after (.obj items)⟩, ?_, holds_after limit stack _⟩
    have hopen : ∀ more, run limit ⟨stack, .value⟩ ('\x7b'.toNat :: more)
        = run limit ⟨.object [] none :: stack, .firstKey⟩ more := by
      intro more
      show (enter limit stack (.object [] none) .firstKey >>= fun st => run limit st more) = _
      rw [enter_of_lt hlt]
      rfl
    unfold encode
    rw [encode_obj_sorted hsorted, hopen]
    cases items with
    | nil => rfl
    | cons first rest =>
      have hreads : ∀ field ∈ first :: rest, Reads floatRepr limit n field.2 :=
        fun field hfield => ih field hfield (hfields field hfield)
      have hdistinct : ((first :: rest).map Prod.fst).Nodup := hsorted.imp fun h => ne_of_lt h
      refine (run_firstKey _ _ _ _).trans ?_
      exact run_fields hinside first rest [] hkeys hdistinct hreads

/-- What is encoded is decoded. -/
theorem loads_encode (h : Plain v) (hcheck : check floatRepr v depth = .ok ())
    (hdepth : depth ≤ limit) : loads limit (encode floatRepr v) = .ok v := by
  have hreads : Reads floatRepr limit depth v := run_encode h hcheck
  rcases hreads [] nofun (by simpa using hdepth) with ⟨st, hrun, hholds⟩
  unfold loads
  rw [hrun]
  exact hholds.finish rfl

/-! ## The bytes of a plain value -/

theorem isPrintable_intercalate {texts : List Text} (h : ∀ text ∈ texts, IsPrintable text) :
    IsPrintable ([','.toNat].intercalate texts) := by
  induction texts with
  | nil => exact nofun
  | cons first rest ih =>
    have hfirst := h first mem_cons_self
    have hrest := ih fun text htext => h text (mem_cons_of_mem _ htext)
    cases rest with
    | nil =>
      rw [intercalate_singleton]
      exact hfirst
    | cons second rest =>
      rw [intercalate_cons_cons]
      intro c hc
      rcases mem_append.mp hc with hc | hc
      · rcases mem_append.mp hc with hc | hc
        · exact hfirst c hc
        · rw [mem_singleton.mp hc]
          decide
      · exact hrest c hc

theorem isPrintable_enclosed {opening closing : ℕ} {text : Text}
    (hopening : 0x20 ≤ opening ∧ opening ≤ 0x7E) (hclosing : 0x20 ≤ closing ∧ closing ≤ 0x7E)
    (h : IsPrintable text) : IsPrintable (opening :: (text ++ [closing])) := by
  intro c hc
  rcases mem_cons.mp hc with rfl | hc
  · exact hopening
  · rcases mem_append.mp hc with hc | hc
    · exact h c hc
    · rw [mem_singleton.mp hc]
      exact hclosing

theorem isPrintable_encodeString {s : Text} (h : IsPlainText s) : IsPrintable (encodeString s) := by
  rw [encodeString_plain h]
  exact isPrintable_enclosed (by decide) (by decide) fun c hc => ⟨(h c hc).1, (h c hc).2.1⟩

/-- A plain value is written in printable ASCII. -/
theorem isPrintable_encode (h : Plain v) : IsPrintable (encode floatRepr v) := by
  induction h with
  | null => exact fun c hc => (by decide : ∀ c ∈ textOf "null", 0x20 ≤ c ∧ c ≤ 0x7E) c hc
  | bool b =>
    cases b with
    | false => exact fun c hc => (by decide : ∀ c ∈ textOf "false", 0x20 ≤ c ∧ c ≤ 0x7E) c hc
    | true => exact fun c hc => (by decide : ∀ c ∈ textOf "true", 0x20 ≤ c ∧ c ≤ 0x7E) c hc
  | nat n h =>
    intro c hc
    have hdigit : isDigit c = true := mem_natText hc
    simp only [isDigit, Bool.and_eq_true, decide_eq_true_eq, Char.toNat] at hdigit
    have hlow : 48 ≤ c := hdigit.1
    have hhigh : c ≤ 57 := hdigit.2
    omega
  | str h => exact isPrintable_encodeString h
  | @arr items h ih =>
    refine isPrintable_enclosed (by decide) (by decide) (isPrintable_intercalate ?_)
    rw [encodeItems_eq]
    intro text htext
    rcases mem_map.mp htext with ⟨v, hv, rfl⟩
    exact ih v hv
  | @obj items hkeys hsorted h ih =>
    refine isPrintable_enclosed (by decide) (by decide) (isPrintable_intercalate ?_)
    rw [encode_obj_sorted hsorted, encodeFields_eq]
    intro text htext
    rcases mem_map.mp htext with ⟨⟨key, value⟩, hfield, rfl⟩
    rcases mem_map.mp hfield with ⟨field, hmem, heq⟩
    rcases Prod.mk.inj heq with ⟨rfl, rfl⟩
    intro c hc
    rcases mem_append.mp hc with hc | hc
    · exact isPrintable_encodeString (hkeys field hmem) c hc
    · rcases mem_cons.mp hc with rfl | hc
      · decide
      · exact ih field hmem c hc

end Json
