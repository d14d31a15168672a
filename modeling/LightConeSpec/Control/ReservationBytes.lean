import LightConeSpec.Control.ReplayStore

/-!
# The bytes of a reservation file

A reservation is stored as canonical JSON and a newline. All of it is ASCII, so a
byte is a character here.

`decode` reads the canonical form. The source reads any JSON first and refuses a
text that is not canonical afterwards, so it accepts the same texts, with other
messages for the rest.

The newline is the last character and the only one: no part of a file that ends
before it can be accepted, `content_proper_part`.
-/

namespace Control

open Python List

/-! ## Digests -/

/-- `_is_sha256`: 64 lower-case hexadecimal digits. -/
def isSha256 (text : String) : Bool :=
  text.toList.length = 64 && text.toList.all (· ∈ "0123456789abcdef".toList)

/-- A lower-case SHA-256. -/
def Sha256 : Type := { text : String // isSha256 text = true }

variable {c : Char} {r : Reservation Sha256}

namespace Sha256

instance : LinearOrder Sha256 := inferInstanceAs (LinearOrder { text : String // isSha256 text = true })

/-- The hexadecimal digits. -/
def chars (d : Sha256) : List Char := d.1.toList

theorem length_chars (d : Sha256) : d.chars.length = 64 := by
  have h := d.2
  rw [isSha256, Bool.and_eq_true] at h
  exact of_decide_eq_true h.1

theorem mem_chars {d : Sha256} (h : c ∈ d.chars) : c ∈ "0123456789abcdef".toList := by
  have hall := d.2
  rw [isSha256, Bool.and_eq_true, all_eq_true] at hall
  simpa using hall.2 c h

theorem not_mem_chars {d : Sha256} (h : c ∉ "0123456789abcdef".toList) : c ∉ d.chars :=
  fun hc => h (mem_chars hc)

end Sha256

/-! ## Writing -/

/-- A digest as a JSON string. -/
def quoted (d : Sha256) : List Char := '"' :: d.chars ++ ['"']

def arrayItems (challenges : List Sha256) : List Char :=
  [','].intercalate (challenges.map quoted)

def objectOpen : List Char := "\x7b\"challenge_sha256s\":[".toList

def kindAndTime : List Char :=
  ']' :: ",\"kind\":\"lightcone_control_challenge_reservation\",\"reserved_ns\":".toList

def objectClose : List Char := ',' :: "\"schema_version\":2\x7d".toList

/-- `json.dumps(canonical, sort_keys=True, separators=(",", ":"))`. -/
def dumps (r : Reservation Sha256) : List Char :=
  objectOpen ++ arrayItems r.challengeSha256s ++ kindAndTime ++ (toString r.reservedNs).toList
    ++ objectClose

def canonicalBytes (r : Reservation Sha256) : List Char := dumps r ++ ['\n']

/-! ## Reading -/

/-- What follows `lead` in a text. -/
def after (lead body : List Char) : Except Error (List Char) :=
  if lead.isPrefixOf body then .ok (body.drop lead.length)
  else .error (valueError "challenge reservation is not UTF-8 JSON")

/-- A digest in quotes. -/
def decodeItem (item : List Char) : Except Error Sha256 :=
  if h : isSha256 (String.ofList (item.drop 1).dropLast) = true
      ∧ item = '"' :: (item.drop 1).dropLast ++ ['"'] then .ok ⟨_, h.1⟩
  else .error (valueError "challenge reservation digests are not canonical")

/-- `json.loads` on the canonical form. -/
def decode (body : List Char) : Except Error (Reservation Sha256) := do
  let rest ← after objectOpen body
  let challenges ← collect (((rest.takeWhile (· ≠ ']')).splitOn ',').map decodeItem)
  let rest ← after kindAndTime (rest.dropWhile (· ≠ ']'))
  let number := rest.takeWhile (· ≠ ',')
  require (number.all Char.isDigit) (valueError "challenge reservation is not UTF-8 JSON")
  let _ ← after objectClose (rest.dropWhile (· ≠ ','))
  pure ⟨Nat.ofDigitChars 10 number 0, challenges⟩

/-- A file of the store: its name, its permission bits and its bytes. -/
structure RawFile where
  name : EntryName Sha256
  mode : BitVec 12
  body : List Char
deriving DecidableEq

/-- The owner may open a file with these permission bits for reading; they do not bind
root. -/
def mayRead (isRoot : Bool) (mode : BitVec 12) : Bool := isRoot || mode &&& 0o400 == 0o400

variable {isRoot : Bool}

/-- The part of `_read_reservation` that depends on the mode and the bytes alone. -/
def RawFile.content (isRoot : Bool) (file : RawFile) : Except Error (Reservation Sha256) := do
  -- `os.open(name, O_RDONLY)`
  require (mayRead isRoot file.mode = true) ⟨.osError, "Permission denied"⟩
  require (1 ≤ file.body.length ∧ file.body.length ≤ maximumChallengeReservationBytes)
    (valueError "challenge reservation is not one bounded file")
  let record ← decode file.body
  require (file.body = canonicalBytes record)
    (valueError "challenge reservation bytes or name are not canonical")
  pure record

def RawFile.read (isRoot : Bool) (file : RawFile) : StoreFile Sha256 :=
  ⟨file.name, file.content isRoot⟩

/-! ## The canonical form is read back -/

theorem after_append (lead rest : List Char) : after lead (lead ++ rest) = .ok rest := by
  have hlead : lead.isPrefixOf (lead ++ rest) = true := by
    rw [List.isPrefixOf_iff_prefix]
    exact prefix_append _ _
  rw [after, if_pos hlead, drop_left]

theorem decodeItem_quoted (d : Sha256) : decodeItem (quoted d) = .ok d := by
  have hinner : ((quoted d).drop 1).dropLast = d.chars := by
    simp [quoted]
  have htext : String.ofList ((quoted d).drop 1).dropLast = d.1 := by
    rw [hinner]
    exact String.ofList_toList
  have hitem : isSha256 (String.ofList ((quoted d).drop 1).dropLast) = true ∧
      quoted d = '"' :: ((quoted d).drop 1).dropLast ++ ['"'] := by
    refine ⟨by rw [htext]; exact d.2, ?_⟩
    rw [hinner]
    rfl
  rw [decodeItem, dif_pos hitem]
  exact congrArg Except.ok (Subtype.ext htext)

theorem length_quoted (d : Sha256) : (quoted d).length = 66 := by
  simp [quoted, d.length_chars]

theorem not_mem_quoted {d : Sha256} (hdigit : c ∉ "0123456789abcdef".toList) (hquote : c ≠ '"') :
    c ∉ quoted d := by
  intro hc
  simp only [quoted, mem_append, mem_cons, not_mem_nil, or_false] at hc
  rcases hc with (hc | hc) | hc
  · exact hquote hc
  · exact Sha256.not_mem_chars hdigit hc
  · exact hquote hc

theorem arrayItems_cons (d e : Sha256) (ds : List Sha256) :
    arrayItems (d :: e :: ds) = quoted d ++ [','] ++ arrayItems (e :: ds) := by
  rw [arrayItems, map_cons, map_cons, intercalate_cons_cons, arrayItems,
    map_cons]

theorem length_arrayItems (challenges : List Sha256) :
    (arrayItems challenges).length = 66 * challenges.length + (challenges.length - 1) := by
  induction challenges with
  | nil => rfl
  | cons d ds ih =>
    cases ds with
    | nil => simp [arrayItems, length_quoted]
    | cons e ds =>
      rw [arrayItems_cons, length_append, length_append, ih, length_quoted]
      simp only [length_cons, length_nil]
      omega

/-- A character that is no digit, quote or comma does not occur in the array. -/
theorem not_mem_arrayItems {challenges : List Sha256} (hdigit : c ∉ "0123456789abcdef".toList)
    (hquote : c ≠ '"') (hcomma : c ≠ ',') : c ∉ arrayItems challenges := by
  induction challenges with
  | nil => exact not_mem_nil
  | cons d ds ih =>
    cases ds with
    | nil => simpa [arrayItems] using not_mem_quoted hdigit hquote
    | cons e ds =>
      rw [arrayItems_cons]
      intro hc
      rcases mem_append.mp hc with hc | hc
      · rcases mem_append.mp hc with hc | hc
        · exact not_mem_quoted hdigit hquote hc
        · exact hcomma (mem_singleton.mp hc)
      · exact ih hc

theorem splitOn_arrayItems {challenges : List Sha256} (hne : challenges ≠ []) :
    (arrayItems challenges).splitOn ',' = challenges.map quoted := by
  refine splitOn_intercalate ',' ?_ (by simpa using hne)
  intro item hitem
  rcases mem_map.mp hitem with ⟨d, -, rfl⟩
  exact not_mem_quoted (by decide) (by decide)

theorem takeWhile_append_cons {text : List Char} (h : c ∉ text) (rest : List Char) :
    (text ++ c :: rest).takeWhile (· ≠ c) = text := by
  have hall : ∀ a ∈ text, decide (a ≠ c) = true := by
    intro a ha
    exact decide_eq_true fun heq => h (heq ▸ ha)
  rw [takeWhile_append_of_pos hall]
  simp

theorem dropWhile_append_cons {text : List Char} (h : c ∉ text) (rest : List Char) :
    (text ++ c :: rest).dropWhile (· ≠ c) = c :: rest := by
  have hall : ∀ a ∈ text, decide (a ≠ c) = true := by
    intro a ha
    exact decide_eq_true fun heq => h (heq ▸ ha)
  rw [dropWhile_append_of_pos hall]
  simp

/-- The digits of a time. -/
theorem toString_nonneg {z : ℤ} (h : 0 ≤ z) : (toString z).toList = Nat.toDigits 10 z.toNat := by
  lift z to ℕ using h
  exact String.toList_ofList

theorem decode_canonicalBytes (hne : r.challengeSha256s ≠ []) (htime : 0 ≤ r.reservedNs) :
    decode (canonicalBytes r) = .ok r := by
  have hdigits := toString_nonneg htime
  have hisDigit : ∀ c ∈ Nat.toDigits 10 r.reservedNs.toNat, c.isDigit = true :=
    fun c hc => Nat.isDigit_of_mem_toDigits (by decide) (by decide) hc
  have hcomma : ',' ∉ Nat.toDigits 10 r.reservedNs.toNat := by
    intro hc
    exact absurd (hisDigit _ hc) (by decide)
  have hbracket : ']' ∉ arrayItems r.challengeSha256s :=
    not_mem_arrayItems (by decide) (by decide) (by decide)
  -- the text after the opening, cut at the closing bracket
  have hbytes : canonicalBytes r = objectOpen ++ (arrayItems r.challengeSha256s ++
      (kindAndTime ++ (Nat.toDigits 10 r.reservedNs.toNat ++ (objectClose ++ ['\n'])))) := by
    simp only [canonicalBytes, dumps, hdigits, append_assoc]
  have hitems : collect (((arrayItems r.challengeSha256s).splitOn ',').map decodeItem) =
      .ok r.challengeSha256s := by
    rw [collect_eq_ok, splitOn_arrayItems hne, map_map]
    refine map_congr_left ?_
    intro d _
    rw [Function.comp_apply, decodeItem_quoted]
  have htakeItems := takeWhile_append_cons hbracket
    (kindAndTime.tail ++ (Nat.toDigits 10 r.reservedNs.toNat ++ (objectClose ++ ['\n'])))
  have hdropItems := dropWhile_append_cons hbracket
    (kindAndTime.tail ++ (Nat.toDigits 10 r.reservedNs.toNat ++ (objectClose ++ ['\n'])))
  have htakeNumber := takeWhile_append_cons hcomma (objectClose.tail ++ ['\n'])
  have hdropNumber := dropWhile_append_cons hcomma (objectClose.tail ++ ['\n'])
  have hkind : ∀ rest, ']' :: (kindAndTime.tail ++ rest) = kindAndTime ++ rest := fun _ => rfl
  have hclose : ∀ rest, ',' :: (objectClose.tail ++ rest) = objectClose ++ rest := fun _ => rfl
  rw [hkind] at htakeItems hdropItems
  rw [hclose] at htakeNumber hdropNumber
  have hnumber : (Nat.toDigits 10 r.reservedNs.toNat).all Char.isDigit = true :=
    all_eq_true.mpr hisDigit
  have hvalue : ((Nat.ofDigitChars 10 (Nat.toDigits 10 r.reservedNs.toNat) 0 : ℕ) : ℤ) =
      r.reservedNs := by
    rw [Nat.ofDigitChars_ten_toDigits, Int.toNat_of_nonneg htime]
  rw [decode, hbytes, after_append]
  simp only [bind, Except.bind, htakeItems, hitems, hdropItems, after_append, htakeNumber,
    hdropNumber, hnumber, require, if_true, hvalue]
  rfl

/-! ## The end of a file -/

theorem length_canonicalBytes (r : Reservation Sha256) :
    (canonicalBytes r).length = r.sizeBytes := by
  have hopen : objectOpen.length = 22 := rfl
  have hkind : kindAndTime.length = 65 := rfl
  have hclose : objectClose.length = 20 := rfl
  simp only [canonicalBytes, dumps, length_append, hopen, hkind, hclose, length_arrayItems,
    Reservation.sizeBytes, length_singleton, String.length_toList]
  omega

/-- The newline at the end is the only one. -/
theorem newline_not_mem_dumps (htime : 0 ≤ r.reservedNs) : '\n' ∉ dumps r := by
  have hitems : '\n' ∉ arrayItems r.challengeSha256s :=
    not_mem_arrayItems (by decide) (by decide) (by decide)
  have hnumber : '\n' ∉ (toString r.reservedNs).toList := by
    rw [toString_nonneg htime]
    intro hc
    exact absurd (Nat.isDigit_of_mem_toDigits (by decide) (by decide) hc) (by decide)
  have hopen : '\n' ∉ objectOpen := by decide +kernel
  have hkind : '\n' ∉ kindAndTime := by decide +kernel
  have hclose : '\n' ∉ objectClose := by decide +kernel
  simp only [dumps, mem_append, not_or]
  exact ⟨⟨⟨⟨hopen, hitems⟩, hkind⟩, hnumber⟩, hclose⟩

/-- No proper part of a file from its start is accepted. -/
theorem content_proper_part {name : EntryName Sha256} {mode : BitVec 12}
    (htime : 0 ≤ r.reservedNs) {size : ℕ} (hsize : size < (canonicalBytes r).length)
    (record : Reservation Sha256) :
    RawFile.content isRoot ⟨name, mode, (canonicalBytes r).take size⟩ ≠ .ok record := by
  intro h
  simp only [RawFile.content, bind_eq_ok, check_eq_ok, pure_eq_ok] at h
  rcases h with ⟨-, -, found, -, hcanonical, -⟩
  have hshort : size ≤ (dumps r).length := by
    rw [canonicalBytes, length_append, length_singleton] at hsize
    omega
  have hpart : (canonicalBytes r).take size = (dumps r).take size := by
    rw [canonicalBytes, take_append_of_le_length hshort]
  have hnewline : '\n' ∈ (dumps r).take size := by
    rw [← hpart, hcanonical, canonicalBytes]
    exact mem_append_right _ mem_cons_self
  exact newline_not_mem_dumps htime (mem_of_mem_take hnewline)

/-- A file that may not be read holds nothing. -/
theorem content_unreadable {file : RawFile} (hmode : mayRead isRoot file.mode = false)
    (record : Reservation Sha256) : file.content isRoot ≠ .ok record := by
  intro h
  simp only [RawFile.content, bind_eq_ok, check_eq_ok] at h
  cases hmode.symm.trans h.1

/-- A readable file with the whole text of a bounded reservation holds it. -/
theorem content_canonicalBytes {name : EntryName Sha256} {mode : BitVec 12}
    (hmode : mayRead isRoot mode = true) (hne : r.challengeSha256s ≠ [])
    (htime : 0 ≤ r.reservedNs) (hsize : r.sizeBytes ≤ maximumChallengeReservationBytes) :
    RawFile.content isRoot ⟨name, mode, canonicalBytes r⟩ = .ok r := by
  have hlength := length_canonicalBytes r
  have hpos : 1 ≤ (canonicalBytes r).length := by
    rw [canonicalBytes, length_append, length_singleton]
    omega
  simp only [RawFile.content, bind_eq_ok, check_eq_ok, pure_eq_ok]
  exact ⟨hmode, ⟨hpos, by omega⟩, r, decode_canonicalBytes hne htime, rfl, rfl⟩

end Control
