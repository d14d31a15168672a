import Mathlib.Data.List.Chain
import LightConeSpec.Lib.Machine
import LightConeSpec.Lib.Method

/-!
# The history of drafter KV versions

`FrozenKVHistory` of `kv_history.py` keeps which version wrote each token of the
KV cache as a list of segments. An append coalesces with the last segment of the
same version, and a retraction cuts the segment that it ends in.

The abstract history is the list of versions, one for each token. The segments
tile it (`Tiles`) and expand to it (`entries`), and every call keeps both.
-/

namespace Adaptation

open Python Machine List Method

/-- `KVSegment`, with the checks of its `__post_init__`. -/
@[ext] structure KVSegment where
  startToken : Int
  endToken : Int
  sourceVersion : Int
  interval : 0 ≤ startToken ∧ startToken < endToken
  version_nonneg : 0 ≤ sourceVersion

instance : DecidableEq KVSegment := fun _ _ => decidable_of_iff' _ KVSegment.ext_iff

def KVSegment.new (startToken endToken sourceVersion : Int) : Except Error KVSegment :=
  if hinterval : 0 ≤ startToken ∧ startToken < endToken then
    if hversion : 0 ≤ sourceVersion then
      .ok ⟨startToken, endToken, sourceVersion, hinterval, hversion⟩
    else .error (valueError "source_version must be non-negative")
  else .error (valueError "KV segment must be a non-empty half-open interval")

structure FrozenKVHistory where
  segments : List KVSegment := []

namespace FrozenKVHistory

def length (h : FrozenKVHistory) : Int :=
  match h.segments.getLast? with
  | some last => last.endToken
  | none => 0

def append (tokenCount sourceVersion : Int) : Method FrozenKVHistory KVSegment := do
  let h ← Method.read id
  Method.check (require (1 ≤ tokenCount) (valueError "token_count must be positive"))
  let segment ← Method.check (KVSegment.new h.length (h.length + tokenCount) sourceVersion)
  match h.segments.getLast? with
  | some previous =>
    if previous.sourceVersion = sourceVersion then do
      let segment ← Method.check
        (KVSegment.new previous.startToken segment.endToken sourceVersion)
      Method.assign fun h => { h with segments := h.segments.dropLast ++ [segment] }
      pure segment
    else do
      Method.assign fun h => { h with segments := h.segments ++ [segment] }
      pure segment
  | none => do
    Method.assign fun h => { h with segments := h.segments ++ [segment] }
    pure segment

/-- The loop of `retract`. -/
def retained (newLength : Int) : List KVSegment → Except Error (List KVSegment)
  | [] => pure []
  | segment :: rest =>
    if newLength ≤ segment.startToken then pure []
    else do
      let kept ← KVSegment.new segment.startToken (min segment.endToken newLength)
        segment.sourceVersion
      let tail ← retained newLength rest
      pure (kept :: tail)

def retract (newLength : Int) : Method FrozenKVHistory Unit := do
  let h ← Method.read id
  Method.check (require (¬ (newLength < 0 ∨ h.length < newLength))
    (valueError "retraction must remain inside the KV history"))
  let segments ← Method.check (retained newLength h.segments)
  Method.assign fun h => { h with segments := segments }

/-- The loop of `version_at`. -/
def versionIn (tokenIndex : Int) : List KVSegment → Except Error Int
  | [] => .error (indexError (toString tokenIndex))
  | segment :: rest =>
    if segment.startToken ≤ tokenIndex ∧ tokenIndex < segment.endToken then
      pure segment.sourceVersion
    else versionIn tokenIndex rest

def versionAt (h : FrozenKVHistory) (tokenIndex : Int) : Except Error Int :=
  versionIn tokenIndex h.segments

end FrozenKVHistory

/-- A call that changes the history. -/
inductive KVCall
  | append (tokenCount sourceVersion : Int)
  | retract (newLength : Int)

/-- A call: whether it raised, and the history after it. -/
def FrozenKVHistory.step (h : FrozenKVHistory) : KVCall → Except Error Unit × FrozenKVHistory
  | .append tokenCount sourceVersion =>
    let (result, h') := FrozenKVHistory.append tokenCount sourceVersion h
    (result.map fun _ => (), h')
  | .retract newLength => FrozenKVHistory.retract newLength h

/-! ## The abstract history -/

/-- The versions of the tokens: an append adds copies of its version, a retraction
truncates, and a call outside the range of the list is refused. -/
def versionLog (log : List Int) : KVCall → Bool × List Int
  | .append tokenCount sourceVersion =>
    if 1 ≤ tokenCount ∧ 0 ≤ sourceVersion then
      (true, log ++ List.replicate tokenCount.toNat sourceVersion)
    else (false, log)
  | .retract newLength =>
    if 0 ≤ newLength ∧ newLength ≤ log.length then (true, log.take newLength.toNat)
    else (false, log)

/-- The versions that a list of segments stands for. -/
def entries (segments : List KVSegment) : List Int :=
  segments.flatMap fun segment =>
    List.replicate (segment.endToken - segment.startToken).toNat segment.sourceVersion

/-- The segments tile the interval from `a` to `b`, in order. -/
def Tiles : Int → List KVSegment → Int → Prop
  | a, [], b => a = b
  | a, segment :: rest, b => segment.startToken = a ∧ Tiles segment.endToken rest b

/-- Neighbouring segments have different versions. -/
def Coalesced (segments : List KVSegment) : Prop :=
  (segments.map (·.sourceVersion)).IsChain (· ≠ ·)

@[simp] theorem entries_nil : entries [] = [] := rfl

@[simp] theorem entries_cons (segment : KVSegment) (rest : List KVSegment) :
    entries (segment :: rest) =
      List.replicate (segment.endToken - segment.startToken).toNat segment.sourceVersion ++
        entries rest := rfl

@[simp] theorem entries_append (xs ys : List KVSegment) :
    entries (xs ++ ys) = entries xs ++ entries ys := by
  simp [entries]

variable {b newLength : Int} {segments : List KVSegment}

theorem tiles_append {a : Int} {xs ys : List KVSegment} :
    Tiles a (xs ++ ys) b ↔ ∃ c, Tiles a xs c ∧ Tiles c ys b := by
  induction xs generalizing a with
  | nil => simp [Tiles]
  | cons segment rest ih =>
    simp only [cons_append, Tiles, ih]
    constructor
    · rintro ⟨hstart, c, hrest, hys⟩
      exact ⟨c, ⟨hstart, hrest⟩, hys⟩
    · rintro ⟨c, ⟨hstart, hrest⟩, hys⟩
      exact ⟨hstart, c, hrest, hys⟩

theorem Tiles.le {a b : Int} {segments : List KVSegment} (h : Tiles a segments b) : a ≤ b := by
  induction segments generalizing a with
  | nil => exact le_of_eq h
  | cons segment rest ih =>
    obtain ⟨rfl, hrest⟩ := h
    exact segment.interval.2.le.trans (ih hrest)

variable {h : FrozenKVHistory} {log : List Int} {sourceVersion : Int}

namespace FrozenKVHistory

/-! ## Queries -/

/-- The entry of a token in the list of versions, or the error of a token outside. -/
def logAt (log : List Int) (tokenIndex : Int) : Except Error Int :=
  if hindex : 0 ≤ tokenIndex ∧ tokenIndex < log.length then
    .ok (log.get ⟨tokenIndex.toNat, by omega⟩)
  else .error (indexError (toString tokenIndex))

/-- A tiling answers a query by the entry of the token. -/
theorem versionIn_eq {a : Int} (h : Tiles a segments b) (tokenIndex : Int) :
    versionIn tokenIndex segments = if a ≤ tokenIndex ∧ tokenIndex < b then
        (entries segments)[(tokenIndex - a).toNat]?.elim
          (.error (indexError (toString tokenIndex))) .ok
      else .error (indexError (toString tokenIndex)) := by
  induction segments generalizing a with
  | nil =>
    obtain rfl : a = b := h
    rw [if_neg (by omega)]
    rfl
  | cons segment rest ih =>
    obtain ⟨rfl, hrest⟩ := h
    have hlt := segment.interval.2
    have hle := hrest.le
    unfold versionIn
    split
    · next hin =>
        rw [if_pos ⟨hin.1, by omega⟩, entries_cons, getElem?_append_left (by simp; omega),
          getElem?_replicate, if_pos (by omega)]
        rfl
    · next hout =>
        rw [ih hrest]
        by_cases hindex : segment.endToken ≤ tokenIndex ∧ tokenIndex < b
        · rw [if_pos hindex, if_pos (by omega), entries_cons,
            getElem?_append_right (by simp; omega), length_replicate]
          congr 3
          omega
        · rw [if_neg hindex, if_neg (by omega)]

/-! ## The refinement -/

/-- The segments tile the tokens of the log, coalesced, and expand to it. -/
structure Refines (h : FrozenKVHistory) (log : List Int) : Prop where
  tiles : Tiles 0 h.segments log.length
  coalesced : Coalesced h.segments
  entries : entries h.segments = log

theorem Refines.empty : Refines {} [] :=
  ⟨rfl, .nil, rfl⟩

theorem length_of_tiles (htiles : Tiles 0 h.segments b) : h.length = b := by
  unfold length
  rcases eq_nil_or_concat h.segments with hnil | ⟨init, last, hlast⟩
  · rw [hnil] at htiles ⊢
    exact htiles
  · rw [hlast, concat_eq_append] at htiles ⊢
    obtain ⟨c, -, -, hend⟩ := tiles_append.mp htiles
    rw [getLast?_concat]
    exact hend

theorem Refines.length {h : FrozenKVHistory} {log : List Int} (hr : Refines h log) :
    h.length = log.length :=
  length_of_tiles hr.tiles

/-- A query returns the entry of the log, and raises for a token outside it. -/
theorem Refines.versionAt (hr : Refines h log) (tokenIndex : Int) :
    h.versionAt tokenIndex = logAt log tokenIndex := by
  unfold FrozenKVHistory.versionAt logAt
  rw [versionIn_eq hr.tiles, hr.entries]
  split
  · next hindex =>
      rw [Int.sub_zero, getElem?_eq_getElem (by omega)]
      rfl
  · rfl

/-! ## Appending -/

theorem new_of_valid {startToken endToken : Int}
    (hinterval : 0 ≤ startToken ∧ startToken < endToken) (hversion : 0 ≤ sourceVersion) :
    KVSegment.new startToken endToken sourceVersion =
      .ok ⟨startToken, endToken, sourceVersion, hinterval, hversion⟩ := by
  unfold KVSegment.new
  rw [dif_pos hinterval, dif_pos hversion]

theorem new_of_negative (hversion : ¬ 0 ≤ sourceVersion) (startToken endToken : Int) :
    ∃ e, KVSegment.new startToken endToken sourceVersion = .error e := by
  unfold KVSegment.new
  split
  · exact ⟨_, rfl⟩
  · exact ⟨_, rfl⟩

/-- A segment of its own at the end of the history. -/
theorem Refines.snoc (hr : Refines h log) {segment : KVSegment}
    (hstart : segment.startToken = h.length)
    (hdiffer : ∀ last ∈ h.segments.getLast?, last.sourceVersion ≠ segment.sourceVersion) :
    Refines { segments := h.segments ++ [segment] }
      (log ++ List.replicate (segment.endToken - segment.startToken).toNat
        segment.sourceVersion) := by
  have hlength := hr.length
  have hlt := segment.interval.2
  refine ⟨tiles_append.mpr ⟨log.length, hr.tiles, by omega, ?_⟩, ?_, ?_⟩
  · show segment.endToken = _
    simp only [length_append, length_replicate]
    omega
  · unfold Coalesced
    rw [map_append, isChain_append]
    refine ⟨hr.coalesced, .singleton _, fun version hversion other hother => ?_⟩
    rw [getLast?_map, Option.mem_map] at hversion
    obtain ⟨last, hlast, rfl⟩ := hversion
    obtain rfl : segment.sourceVersion = other := by simpa using hother
    exact hdiffer last hlast
  · simp [hr.entries]

/-- The last segment of the history grows. -/
theorem Refines.grow {init : List KVSegment} {last segment : KVSegment}
    (hr : Refines { segments := init ++ [last] } log)
    (hstart : segment.startToken = last.startToken) (hend : last.endToken ≤ segment.endToken)
    (hversion : segment.sourceVersion = last.sourceVersion) :
    Refines { segments := init ++ [segment] }
      (log ++ List.replicate (segment.endToken - last.endToken).toNat segment.sourceVersion) := by
  have hlt := last.interval.2
  obtain ⟨c, hinit, hc, hlast⟩ := tiles_append.mp hr.tiles
  have hlast : last.endToken = log.length := hlast
  refine ⟨tiles_append.mpr ⟨c, hinit, hstart.trans hc, ?_⟩, ?_, ?_⟩
  · show segment.endToken = _
    simp only [length_append, length_replicate]
    omega
  · have hcoalesced := hr.coalesced
    unfold Coalesced at hcoalesced ⊢
    simpa [hversion] using hcoalesced
  · rw [← hr.entries]
    simp only [entries_append, entries_cons, entries_nil, append_nil, append_assoc,
      hversion, replicate_append_replicate]
    congr 2
    omega

/-- An append that the log accepts appends to it. -/
theorem append_accepted (hr : Refines h log) {tokenCount : Int} (hcount : 1 ≤ tokenCount)
    (hversion : 0 ≤ sourceVersion) :
    ∃ segment h', append tokenCount sourceVersion h = (.ok segment, h') ∧
      Refines h' (log ++ List.replicate tokenCount.toNat sourceVersion) := by
  have hlength := hr.length
  have hinterval : 0 ≤ h.length ∧ h.length < h.length + tokenCount := by omega
  have hadded : (h.length + tokenCount - h.length).toNat = tokenCount.toNat := by omega
  unfold append
  rw [read_bind]
  simp only [id]
  rw [check_bind_ok ((require_eq_ok (u := ())).mpr hcount),
    check_bind_ok (new_of_valid hinterval hversion)]
  rcases eq_nil_or_concat h.segments with hnil | ⟨init, last, hlast⟩
  · simp only [hnil, getLast?_nil]
    refine ⟨_, _, rfl, ?_⟩
    rw [← hadded]
    exact hr.snoc rfl (by simp [hnil])
  · rw [concat_eq_append] at hlast
    obtain ⟨segments⟩ := h
    obtain rfl : segments = init ++ [last] := hlast
    have hend : length { segments := init ++ [last] } = last.endToken := by
      simp [FrozenKVHistory.length]
    simp only [getLast?_concat]
    split
    · next hsame =>
        -- the same version: the last segment grows
        have hlt := last.interval.2
        rw [check_bind_ok (new_of_valid ⟨last.interval.1, by rw [hend]; omega⟩ hversion)]
        refine ⟨_, { segments := init ++ [_] }, by rw [assign_bind, dropLast_concat]; rfl,
          ?_⟩
        have hgrown : tokenCount.toNat =
            (length { segments := init ++ [last] } + tokenCount - last.endToken).toNat := by
          rw [hend]
          omega
        rw [hgrown]
        refine hr.grow rfl ?_ hsame.symm
        show last.endToken ≤ length { segments := init ++ [last] } + tokenCount
        omega
    · next hdiffer =>
        refine ⟨_, _, rfl, ?_⟩
        -- another version: a segment of its own
        rw [← hadded]
        refine hr.snoc rfl fun other hother => ?_
        obtain rfl : last = other := by simpa using hother
        exact hdiffer

/-- An append that the log refuses raises and changes nothing. -/
theorem append_refused (h : FrozenKVHistory) {tokenCount : Int}
    (hrefused : ¬ (1 ≤ tokenCount ∧ 0 ≤ sourceVersion)) :
    ∃ e, append tokenCount sourceVersion h = (.error e, h) := by
  unfold append
  rw [read_bind]
  by_cases hcount : 1 ≤ tokenCount
  · obtain ⟨e, he⟩ := new_of_negative (fun hversion => hrefused ⟨hcount, hversion⟩)
      (id h).length ((id h).length + tokenCount)
    rw [check_bind_ok ((require_eq_ok (u := ())).mpr hcount), check_bind_error he]
    exact ⟨e, rfl⟩
  · rw [check_bind_error (require_eq_error.mpr ⟨hcount, rfl⟩)]
    exact ⟨_, rfl⟩

/-! ## Retracting -/

/-- A retraction to the start of a tiling keeps nothing of it. -/
theorem retained_of_le {a : Int} (htiles : Tiles a segments b) (hle : newLength ≤ a) :
    retained newLength segments = .ok [] := by
  cases segments with
  | nil => rfl
  | cons segment rest =>
    obtain ⟨rfl, -⟩ := htiles
    unfold retained
    rw [if_pos hle]
    rfl

/-- A retraction into a tiling keeps its tokens before the new end. -/
theorem retained_spec {a : Int} (htiles : Tiles a segments b) (hstart : a ≤ newLength)
    (hend : newLength ≤ b) :
    ∃ kept, retained newLength segments = .ok kept ∧ Tiles a kept newLength ∧
      entries kept = (entries segments).take (newLength - a).toNat ∧
      kept.map (·.sourceVersion) <+: segments.map (·.sourceVersion) := by
  induction segments generalizing a with
  | nil =>
    obtain rfl : a = b := htiles
    exact ⟨[], rfl, le_antisymm hstart hend, by simp, prefix_refl _⟩
  | cons segment rest ih =>
    obtain ⟨rfl, hrest⟩ := htiles
    have hlt := segment.interval.2
    unfold retained
    split
    · next hle =>
        obtain rfl : newLength = segment.startToken := le_antisymm hle hstart
        exact ⟨[], rfl, rfl, by simp, nil_prefix⟩
    · next hgt =>
        rw [new_of_valid ⟨segment.interval.1, by omega⟩ segment.version_nonneg]
        rcases le_total segment.endToken newLength with hin | hcut
        · -- the segment is kept whole
          obtain ⟨kept, hkept, hkeptTiles, hentries, hgrows⟩ := ih hrest hin
          refine ⟨_, by rw [hkept]; rfl, ?_, ?_, ?_⟩
          · refine ⟨rfl, ?_⟩
            show Tiles (min segment.endToken newLength) kept newLength
            rw [min_eq_left hin]
            exact hkeptTiles
          · simp only [entries_cons, min_eq_left hin, hentries]
            rw [take_append, length_replicate, take_replicate]
            congr 2 <;> omega
          · exact (prefix_cons_inj _).mpr hgrows
        · -- the segment is cut, and nothing follows it
          refine ⟨_, by rw [retained_of_le hrest hcut]; rfl, ?_, ?_, ?_⟩
          · exact ⟨rfl, min_eq_right hcut⟩
          · simp only [entries_cons, min_eq_right hcut, entries_nil, append_nil]
            rw [take_append_of_le_length (by simp; omega), take_replicate]
            congr 1
            omega
          · exact (prefix_cons_inj _).mpr nil_prefix

/-- A retraction that the log accepts truncates it. -/
theorem retract_accepted (hr : Refines h log) (hstart : 0 ≤ newLength)
    (hend : newLength ≤ log.length) :
    ∃ h', retract newLength h = (.ok (), h') ∧ Refines h' (log.take newLength.toNat) := by
  have hlength := hr.length
  obtain ⟨kept, hkept, htiles, hentries, hgrows⟩ := retained_spec hr.tiles hstart hend
  unfold retract
  rw [read_bind]
  simp only [id]
  rw [check_bind_ok ((require_eq_ok (u := ())).mpr (by omega)), check_bind_ok hkept]
  refine ⟨{ segments := kept }, rfl, ?_, hr.coalesced.prefix hgrows, ?_⟩
  · have htaken : ((log.take newLength.toNat).length : Int) = newLength := by
      rw [length_take]
      omega
    rw [htaken]
    exact htiles
  · rw [hentries, hr.entries, Int.sub_zero]

theorem retract_refused (hr : Refines h log)
    (hrefused : ¬ (0 ≤ newLength ∧ newLength ≤ log.length)) :
    ∃ e, retract newLength h = (.error e, h) := by
  have hlength := hr.length
  unfold retract
  rw [read_bind]
  simp only [id]
  rw [check_bind_error (require_eq_error.mpr ⟨by omega, rfl⟩)]
  exact ⟨_, rfl⟩

/-! ## Every sequence of calls -/

/-- A call succeeds exactly when the log accepts it, and keeps the refinement. -/
theorem Refines.step (hr : Refines h log) (call : KVCall) :
    ((h.step call).1.isOk = (versionLog log call).1) ∧
      (((versionLog log call).1 = false → (h.step call).2 = h)) ∧
      Refines (h.step call).2 (versionLog log call).2 := by
  cases call with
  | append tokenCount sourceVersion =>
    simp only [versionLog, FrozenKVHistory.step]
    split
    · next hok =>
        obtain ⟨segment, h', happend, hr'⟩ := append_accepted hr hok.1 hok.2
        rw [happend]
        exact ⟨rfl, nofun, hr'⟩
    · next hbad =>
        obtain ⟨e, happend⟩ := append_refused h hbad
        rw [happend]
        exact ⟨rfl, fun _ => rfl, hr⟩
  | retract newLength =>
    simp only [versionLog, FrozenKVHistory.step]
    split
    · next hok =>
        obtain ⟨h', hretract, hr'⟩ := retract_accepted hr hok.1 hok.2
        rw [hretract]
        exact ⟨rfl, nofun, hr'⟩
    · next hbad =>
        obtain ⟨e, hretract⟩ := retract_refused hr hbad
        rw [hretract]
        exact ⟨rfl, fun _ => rfl, hr⟩

theorem refines_final (calls : List KVCall) :
    Refines (final FrozenKVHistory.step {} calls) (final versionLog [] calls) := by
  suffices ∀ h log, Refines h log → Refines (final FrozenKVHistory.step h calls)
      (final versionLog log calls) from this _ _ .empty
  induction calls with
  | nil => exact fun h log hr => hr
  | cons call calls ih => exact fun h log hr => ih _ _ (hr.step call).2.2

/-- After every sequence of calls the segments tile the history without gaps and
coalesced, and a query returns the entry of the log of versions. -/
theorem kv_history_refines_log (calls : List KVCall) :
    let h := final FrozenKVHistory.step {} calls
    let log := final versionLog [] calls
    h.length = log.length ∧ Tiles 0 h.segments h.length ∧ Coalesced h.segments ∧
      (∀ tokenIndex, h.versionAt tokenIndex = logAt log tokenIndex) ∧
      (∀ call, (h.step call).1.isOk = (versionLog log call).1 ∧
        ((h.step call).1.isOk = false → (h.step call).2 = h)) := by
  intro h log
  have hr : Refines h log := refines_final calls
  refine ⟨hr.length, ?_, hr.coalesced, hr.versionAt, fun call => ?_⟩
  · rw [hr.length]
    exact hr.tiles
  · obtain ⟨hok, hsame, -⟩ := hr.step call
    rw [hok]
    exact ⟨rfl, hsame⟩

end FrozenKVHistory

end Adaptation
