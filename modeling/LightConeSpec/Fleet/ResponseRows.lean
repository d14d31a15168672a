import LightConeSpec.Fleet.ResponseBytes
import LightConeSpec.Lib.JsonNesting

/-!
# The rows of a response

`from_dict` accepts exactly the rows that `to_dict` writes, in any order of their fields, and
raises `TypeError`s and `ValueError`s for the others. For each part of a row one lemma says which
value is read as it.
-/

namespace Fleet

open Python List

open Control (Sha256 isSha256)

variable {row : List (Text × Json)} {name : String} {v : Json}

/-! ## Strings -/

variable {s : String}

theorem stringOf_eq_some {text : Text} : stringOf text = some s ↔ text = textOf s := by
  unfold stringOf textOf
  constructor
  · intro h
    split at h
    · rename_i hvalid
      cases h
      rw [String.toList_ofList, map_map]
      conv_lhs => rw [← map_id text]
      refine map_congr_left fun c hc => ?_
      have hchar : Char.ofNat c = Char.ofNatAux c (hvalid c hc) := dif_pos (hvalid c hc)
      show c = (Char.ofNat c).toNat
      rw [hchar]
      rfl
    · cases h
  · rintro rfl
    have hvalid : ∀ c ∈ s.toList.map Char.toNat, c.isValidChar := by
      intro c hc
      rcases mem_map.mp hc with ⟨char, -, rfl⟩
      exact char.valid
    have hchars : (s.toList.map Char.toNat).map Char.ofNat = s.toList := by
      rw [map_map]
      conv_rhs => rw [← map_id s.toList]
      exact map_congr_left fun c _ => Char.ofNat_toNat c
    rw [if_pos hvalid, hchars, String.ofList_toList]

theorem textOf_injective : Function.Injective textOf := by
  intro s s' h
  have hs : stringOf (textOf s') = some s := stringOf_eq_some.mpr h.symm
  rw [stringOf_eq_some.mpr rfl] at hs
  exact (Option.some.inj hs).symm

/-! ## Which value is read as a part -/

theorem requireKind_eq_ok {u : Unit} : requireKind v = .ok u ↔ v = .str (textOf responseKind) := by
  cases v with
  | str text => simp [requireKind]
  | null | bool | int | float | arr | obj => simp [requireKind]

theorem strictInt_eq_ok {n : ℤ} : strictInt name v = .ok n ↔ v = .int n := by
  cases v with
  | int m => simp [strictInt]
  | null | bool | float | str | arr | obj => simp [strictInt]

theorem matchedText_eq_ok {pattern : String → Bool} {error : Error} :
    matchedText pattern error v = .ok s ↔ v = .str (textOf s) ∧ pattern s = true := by
  cases v with
  | str text =>
    have htext : Json.str text = .str (textOf s) ↔ stringOf text = some s := by
      rw [stringOf_eq_some, Json.str.injEq]
    rw [htext]
    simp only [matchedText]
    cases stringOf text with
    | none => simp
    | some s' =>
      dsimp only
      split
      · rename_i hpattern
        constructor
        · rintro ⟨⟩
          exact ⟨rfl, hpattern⟩
        · rintro ⟨⟨⟩, -⟩
          rfl
      · rename_i hpattern
        constructor
        · nofun
        · rintro ⟨⟨⟩, h⟩
          exact absurd h hpattern
  | null | bool | int | float | arr | obj => simp [matchedText]

theorem requireSha256Text_eq_ok {d : Sha256} :
    requireSha256Text name v = .ok d ↔ v = .str (textOf d.1) := by
  cases v with
  | str text =>
    have htext : Json.str text = .str (textOf d.1) ↔ stringOf text = some d.1 := by
      rw [stringOf_eq_some, Json.str.injEq]
    rw [htext]
    simp only [requireSha256Text]
    cases stringOf text with
    | none => simp
    | some s =>
      dsimp only
      split
      · constructor
        · rintro ⟨⟩
          rfl
        · rintro ⟨⟩
          rfl
      · rename_i hdigest
        constructor
        · nofun
        · rintro ⟨⟩
          exact absurd d.2 hdigest
  | null | bool | int | float | arr | obj => simp [requireSha256Text]

theorem optionalSha256_eq_ok {d : Option Sha256} :
    optionalSha256 name v = .ok d ↔ v = optionalText (d.map (·.1)) := by
  cases v with
  | null =>
    cases d with
    | none => simp [optionalSha256, optionalText]
    | some d => simp [optionalSha256, optionalText]
  | bool | int | float | str | arr | obj =>
    simp only [optionalSha256, map_eq_ok, requireSha256Text_eq_ok]
    cases d with
    | none => simp [optionalText]
    | some d => simp [optionalText]

theorem optionalReason_eq_ok {reason : Option String} : optionalReason name v = .ok reason ↔
      v = optionalText reason ∧ ∀ s ∈ reason, isReasonCode s = true := by
  cases v with
  | null =>
    cases reason with
    | none => simp [optionalReason, optionalText]
    | some s => simp [optionalReason, optionalText]
  | bool | int | float | str | arr | obj =>
    simp only [optionalReason, map_eq_ok, matchedText_eq_ok]
    cases reason with
    | none => simp [optionalText]
    | some s => simp [optionalText]

theorem sha256List_eq_ok {listName : String} {digests : List Sha256} :
    sha256List listName name v = .ok digests ↔ v = digestList digests := by
  cases v with
  | arr items =>
    unfold sha256List digestList
    rw [collect_eq_ok, Json.arr.injEq]
    induction items generalizing digests with
    | nil => cases digests <;> simp
    | cons item rest ih =>
      cases digests with
      | nil => simp
      | cons d digests =>
        simp only [map_cons, List.cons.injEq, requireSha256Text_eq_ok]
        rw [ih]
  | null | bool | int | float | str | obj => simp [sha256List, digestList]

/-- A status has one text. -/
theorem workerStatus_eq_ok {status : RemoteWorkerStatus} :
    workerStatus v = .ok status ↔ v = .str (textOf status.value) := by
  have hdistinct : ∀ status' : RemoteWorkerStatus,
      textOf status'.value = textOf status.value ↔ status' = status := by
    intro status'
    cases status' <;> cases status <;> simp [textOf_injective.eq_iff, RemoteWorkerStatus.value]
  cases v with
  | str text =>
    have hvalue : ∀ status', workerStatus (.str (textOf (RemoteWorkerStatus.value status')))
        = .ok status' := by
      intro status'
      cases status' <;> decide
    constructor
    · intro h
      unfold workerStatus at h
      dsimp only at h
      split at h
      · rename_i heq
        cases h
        rw [heq]
        rfl
      split at h
      · rename_i heq
        cases h
        rw [heq]
        rfl
      split at h
      · rename_i heq
        cases h
        rw [heq]
        rfl
      · cases h
    · intro h
      rw [h, hvalue]
  | null | bool | int | float | arr | obj => simp [workerStatus]

/-! ## Rows -/

theorem keys_toDict (r : RemoteHostWaveResponse Sha256) : r.toDict.map Prod.fst = responseFields :=
  rfl

theorem nodup_responseFields : responseFields.Nodup := by
  decide +kernel

/-- A field that the row has is found. -/
theorem field_eq_ok (hdistinct : (row.map Prod.fst).Nodup) :
    field row name = .ok v ↔ (textOf name, v) ∈ row := by
  unfold field
  constructor
  · intro h
    split at h
    · rename_i item hfind
      cases h
      have hkey : item.1 = textOf name := by simpa using find?_some hfind
      rw [← hkey]
      exact mem_of_find?_eq_some hfind
    · cases h
  · intro h
    have hsome : (row.find? fun item => item.1 = textOf name).isSome := by
      rw [find?_isSome]
      exact ⟨_, h, by simp⟩
    rcases Option.isSome_iff_exists.mp hsome with ⟨item, hfind⟩
    rw [hfind]
    have hkey : item.1 = textOf name := by simpa using find?_some hfind
    have hitem := inj_on_of_nodup_map hdistinct (mem_of_find?_eq_some hfind) h hkey
    rw [hitem]

/-- A field with one of the names of the row is found. -/
theorem field_raises {P : Error → Prop} (hfields : responseFields ⊆ row.map Prod.fst)
    (hname : textOf name ∈ responseFields) : RaisesOnly P (field row name) := by
  rcases mem_map.mp (hfields hname) with ⟨item, hitem, hkey⟩
  have hsome : (row.find? fun item => item.1 = textOf name).isSome := by
    rw [find?_isSome]
    exact ⟨item, hitem, by simpa using hkey⟩
  rcases Option.isSome_iff_exists.mp hsome with ⟨found, hfind⟩
  unfold field
  rw [hfind]
  exact raisesOnly_ok

/-- Rows with distinct keys are equal up to order when one has the items of the other, and no
other keys. -/
theorem perm_of_items {row' : List (Text × Json)} (hrow : (row.map Prod.fst).Nodup)
    (hrow' : (row'.map Prod.fst).Nodup) (hkeys : row.map Prod.fst ⊆ row'.map Prod.fst)
    (h : ∀ item ∈ row', item ∈ row) : row.Perm row' := by
  rw [perm_ext_iff_of_nodup (List.Nodup.of_map _ hrow) (List.Nodup.of_map _ hrow')]
  intro item
  constructor
  · intro hitem
    rcases mem_map.mp (hkeys (mem_map_of_mem hitem)) with ⟨item', hitem', hkey⟩
    have heq := inj_on_of_nodup_map hrow (h item' hitem') hitem hkey
    exact heq ▸ hitem'
  · exact h item

/-! ## Reading a row -/

/-- A row is read as a response when it is what `to_dict` writes, in some order. -/
theorem fromDict_eq_ok {r : RemoteHostWaveResponse Sha256} (hdistinct : (row.map Prod.fst).Nodup)
    (hversion : r.schemaVersion = 1) : RemoteHostWaveResponse.fromDict row = .ok r ↔
      isSafeId r.hostId = true ∧ (∀ s ∈ r.reasonCode, isReasonCode s = true) ∧
        row.Perm r.toDict := by
  unfold RemoteHostWaveResponse.fromDict
  simp only [bind_eq_ok, require_eq_ok, pure_eq_ok, field_eq_ok hdistinct, requireKind_eq_ok,
    strictInt_eq_ok, requireIdText, matchedText_eq_ok, requireSha256Text_eq_ok,
    optionalSha256_eq_ok, optionalReason_eq_ok, sha256List_eq_ok, workerStatus_eq_ok]
  constructor
  · rintro ⟨-, ⟨hkeys, -⟩, _, hkind, -, rfl, _, hstatus, status, rfl, _, hreason, reason,
      ⟨rfl, hcode⟩, _, hschema, n, rfl, _, hhost, host, ⟨rfl, hid⟩, _, hrequest, request, rfl, _,
      hbinding, binding, rfl, _, hreceipt, receipt, rfl, _, henvelope, envelope, rfl, _,
      hcompleted, completed, rfl, _, hfailed, failed, rfl, rfl⟩
    refine ⟨hid, hcode, ?_⟩
    have hn : n = (1 : ℕ) := by
      dsimp only at hversion
      omega
    refine perm_of_items hdistinct nodup_responseFields hkeys ?_
    rw [hn] at hschema
    simp only [RemoteHostWaveResponse.toDict, forall_mem_cons, hn]
    exact ⟨hschema, hkind, hhost, hrequest, hbinding, hstatus, hreason, hreceipt, henvelope,
      hcompleted, hfailed, forall_mem_nil _⟩
  · rintro ⟨hid, hcode, hperm⟩
    have hkeys : (row.map Prod.fst).Perm responseFields := hperm.map Prod.fst
    have hmem : ∀ item ∈ r.toDict, item ∈ row := fun item => hperm.mem_iff.mpr
    simp only [RemoteHostWaveResponse.toDict, forall_mem_cons] at hmem
    rcases hmem with ⟨hschema, hkind, hhost, hrequest, hbinding, hstatus, hreason, hreceipt,
      henvelope, hcompleted, hfailed, -⟩
    refine ⟨(), ⟨hkeys.subset, hkeys.symm.subset⟩, _, hkind, (), rfl, _, hstatus, _, rfl, _, hreason,
      _, ⟨rfl, hcode⟩, _, hschema, _, rfl, _, hhost, _, ⟨rfl, hid⟩, _, hrequest, _, rfl, _,
      hbinding, _, rfl, _, hreceipt, _, rfl, _, henvelope, _, rfl, _, hcompleted, _, rfl, _,
      hfailed, _, rfl, ?_⟩
    rfl

/-! ## What reading a row raises -/

theorem matchedText_raises {pattern : String → Bool} {error : Error} (h : Caught error) (v : Json) :
    RaisesOnly Caught (matchedText pattern error v) := by
  cases v with
  | str text =>
    simp only [matchedText]
    cases stringOf text with
    | none => exact raisesOnly_error.mpr h
    | some s =>
      dsimp only
      split
      · exact raisesOnly_ok
      · exact raisesOnly_error.mpr h
  | null | bool | int | float | arr | obj => exact raisesOnly_error.mpr h

theorem requireSha256Text_raises (name : String) (v : Json) :
    RaisesOnly Caught (requireSha256Text name v) := by
  cases v with
  | str text =>
    simp only [requireSha256Text]
    cases stringOf text with
    | none => exact raisesOnly_error.mpr rfl
    | some s =>
      dsimp only
      split
      · exact raisesOnly_ok
      · exact raisesOnly_error.mpr rfl
  | null | bool | int | float | arr | obj => exact raisesOnly_error.mpr rfl

theorem optionalSha256_raises (name : String) (v : Json) :
    RaisesOnly Caught (optionalSha256 name v) := by
  cases v with
  | null => exact raisesOnly_ok
  | bool | int | float | str | arr | obj => exact raisesOnly_map (requireSha256Text_raises name _)

theorem optionalReason_raises (name : String) (v : Json) :
    RaisesOnly Caught (optionalReason name v) := by
  cases v with
  | null => exact raisesOnly_ok
  | bool | int | float | str | arr | obj => exact raisesOnly_map (matchedText_raises rfl _)

theorem sha256List_raises (listName name : String) (v : Json) :
    RaisesOnly Caught (sha256List listName name v) := by
  cases v with
  | arr items =>
    refine raisesOnly_collect ?_
    rw [forall_mem_map]
    exact fun item _ => requireSha256Text_raises name item
  | null | bool | int | float | str | obj => exact raisesOnly_error.mpr rfl

theorem strictInt_raises (name : String) (v : Json) : RaisesOnly Caught (strictInt name v) := by
  cases v with
  | int n => exact raisesOnly_ok
  | null | bool | float | str | arr | obj => exact raisesOnly_error.mpr rfl

theorem workerStatus_raises (v : Json) : RaisesOnly Caught (workerStatus v) := by
  cases v with
  | str text =>
    simp only [workerStatus]
    repeat'
      split
      · exact raisesOnly_ok
    exact raisesOnly_error.mpr rfl
  | null | bool | int | float | arr | obj => exact raisesOnly_error.mpr rfl

theorem requireKind_raises (v : Json) : RaisesOnly Caught (requireKind v) := by
  cases v with
  | str text => exact raisesOnly_require rfl
  | null | bool | int | float | arr | obj => exact raisesOnly_error.mpr rfl

/-- A part of a row that has all fields: the field is found and then read. -/
theorem part_raises {α β : Type} {read : Json → Except Error α} {f : α → Except Error β}
    (hfields : responseFields ⊆ row.map Prod.fst) (hname : textOf name ∈ responseFields)
    (hread : ∀ v, RaisesOnly Caught (read v)) (hf : ∀ a, RaisesOnly Caught (f a)) :
    RaisesOnly Caught (do f (← read (← field row name))) :=
  raisesOnly_bind (field_raises hfields hname) fun v _ =>
    raisesOnly_bind (hread v) fun a _ => hf a

theorem fromDict_raises (row : List (Text × Json)) :
    RaisesOnly Caught (RemoteHostWaveResponse.fromDict row) := by
  have hname : ∀ name ∈ ["schema_version", "kind", "host_id", "request_sha256", "binding_sha256",
      "status", "reason_code", "dispatch_schedule_receipt_sha256",
      "dispatch_schedule_receipt_envelope_sha256", "completed_assignment_sha256",
      "failed_assignment_sha256"], textOf name ∈ responseFields := fun _ => mem_map_of_mem
  simp only [forall_mem_cons] at hname
  rcases hname with ⟨hschema, hkind, hhost, hrequest, hbinding, hstatus, hreason, hreceipt,
    henvelope, hcompleted, hfailed, -⟩
  refine raisesOnly_check fun hfields => ?_
  refine part_raises hfields.2 hkind requireKind_raises fun _ => ?_
  refine part_raises hfields.2 hstatus workerStatus_raises fun _ => ?_
  refine part_raises hfields.2 hreason (optionalReason_raises _) fun _ => ?_
  refine part_raises hfields.2 hschema (strictInt_raises _) fun _ => ?_
  refine part_raises hfields.2 hhost (matchedText_raises rfl) fun _ => ?_
  refine part_raises hfields.2 hrequest (requireSha256Text_raises _) fun _ => ?_
  refine part_raises hfields.2 hbinding (requireSha256Text_raises _) fun _ => ?_
  refine part_raises hfields.2 hreceipt (optionalSha256_raises _) fun _ => ?_
  refine part_raises hfields.2 henvelope (optionalSha256_raises _) fun _ => ?_
  refine part_raises hfields.2 hcompleted (sha256List_raises _ _) fun _ => ?_
  refine part_raises hfields.2 hfailed (sha256List_raises _ _) fun _ => ?_
  exact raisesOnly_pure

/-! ## A row is plain -/

theorem isPlainText_textOf (h : ∀ c ∈ s.toList, Json.IsPlainChar c.toNat) :
    Json.IsPlainText (textOf s) := by
  intro c hc
  rcases mem_map.mp hc with ⟨char, hchar, rfl⟩
  exact h char hchar

theorem isPlainChar_of_isAlphanum {c : Char} (h : c.isAlphanum = true) :
    Json.IsPlainChar c.toNat := by
  delta Char.isAlphanum Char.isAlpha Char.isUpper Char.isLower Char.isDigit at h
  simp only [Bool.or_eq_true, Bool.and_eq_true, decide_eq_true_eq, ge_iff_le, UInt32.le_iff_toNat_le] at h
  have hvalue : c.val.toNat = c.toNat := rfl
  rw [hvalue] at h
  unfold Json.IsPlainChar
  have hquote : '"'.toNat = 34 := rfl
  have hbackslash : '\\'.toNat = 92 := rfl
  simp at h
  omega

theorem isPlainText_sha256 (d : Sha256) : Json.IsPlainText (textOf d.1) := by
  refine isPlainText_textOf fun c hc => ?_
  have hdigit := Sha256.mem_chars (d := d) hc
  have hall : ("0123456789abcdef".toList.map Char.toNat).all (Json.IsPlainChar ·) := by decide
  exact of_decide_eq_true (all_eq_true.mp hall _ (mem_map_of_mem hdigit))

theorem isPlainText_safeId (h : isSafeId s = true) : Json.IsPlainText (textOf s) := by
  refine isPlainText_textOf fun c hc => ?_
  unfold isSafeId at h
  split at h
  · cases h
  · rename_i first rest htext
    have hother : ("._:@+-".toList.map Char.toNat).all (Json.IsPlainChar ·) := by decide
    simp only [Bool.and_eq_true, all_eq_true, Bool.or_eq_true, contains_iff_mem] at h
    rw [htext] at hc
    rcases mem_cons.mp hc with rfl | hc
    · exact isPlainChar_of_isAlphanum h.1.1
    · rcases h.2 c hc with hc | hc
      · exact isPlainChar_of_isAlphanum hc
      · exact of_decide_eq_true (all_eq_true.mp hother _ (mem_map_of_mem hc))

theorem isPlainText_reasonCode (h : isReasonCode s = true) : Json.IsPlainText (textOf s) := by
  refine isPlainText_textOf fun c hc => ?_
  unfold isReasonCode at h
  split at h
  · cases h
  · rename_i first rest htext
    have hlower : ∀ c : Char, c.isLower = true → Json.IsPlainChar c.toNat := fun c hc =>
      isPlainChar_of_isAlphanum (by delta Char.isAlphanum Char.isAlpha; simp [hc])
    simp only [Bool.and_eq_true, all_eq_true, Bool.or_eq_true, beq_iff_eq] at h
    rw [htext] at hc
    rcases mem_cons.mp hc with rfl | hc
    · exact hlower _ h.1.1
    · rcases h.2 c hc with (hc | hc) | rfl
      · exact hlower c hc
      · exact isPlainChar_of_isAlphanum (by simp [Char.isAlphanum, hc])
      · decide

end Fleet
