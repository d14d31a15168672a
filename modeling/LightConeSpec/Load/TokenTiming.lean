import Mathlib.Data.List.Chain
import Mathlib.Tactic.Ring
import LightConeSpec.Load.Plan

/-!
# Token timing of one streamed request

`evaluate_token_timing` reads the chunks of a stream once. Three kinds of chunk
give token times differently: a chunk with a timestamp per token gives those, a
chunk of one token gives its own time, and a coalesced chunk gives none.

The coverage that is returned is a function of the token times alone
(`coverageOf`), so it does not matter how the stream was cut. Whether the cut is
accepted does: the chunk times must not decrease, and a token may be timed
before the chunk in front of it was observed.
-/

namespace Load

open Python List

def pairwise {α : Type} (values : List α) : List (α × α) :=
  values.zip values.tail

/-- One streamed chunk; multi-token chunks require per-token timestamps. -/
structure TokenChunkTiming where
  requestId : String
  firstTokenIndex : ℤ
  tokenCount : ℤ
  chunkObservedAtUs : ℤ
  perTokenObservedAtUs : Option (List ℤ) := none

/-- The loop over the timestamps of a chunk. -/
def checkTimestamps (observed : ℤ) : ℤ → List ℤ → Except Error Unit
  | _, [] => pure ()
  | previous, timestamp :: rest => do
    requireNonnegativeInteger timestamp "per-token timestamp"
    require (previous ≤ timestamp ∧ timestamp ≤ observed)
      (valueError "per-token timestamps are not ordered within chunk")
    checkTimestamps observed timestamp rest

def TokenChunkTiming.validate (chunk : TokenChunkTiming) : Except Error Unit := do
  require (chunk.requestId ≠ "") (valueError "timing request ID must not be empty")
  requireNonnegativeInteger chunk.firstTokenIndex "first token index"
  require (1 ≤ chunk.tokenCount) (valueError "timing chunk token count must be positive")
  requireNonnegativeInteger chunk.chunkObservedAtUs "chunk timestamp"
  match chunk.perTokenObservedAtUs with
  | none => pure ()
  | some timestamps => do
    require ((timestamps.length : ℤ) = chunk.tokenCount)
      (valueError "per-token timestamp count does not match chunk")
    checkTimestamps chunk.chunkObservedAtUs (-1) timestamps

structure TimingCoverage where
  requestId : String
  outputTokens : ℤ
  expectedItlIntervals : ℤ
  supportedItlIntervals : ℤ
  coalescedTokens : ℤ
  /-- The exact ratio; the source rounds it to a float. -/
  itlCoverage : ℚ
  ttftUs : Option ℤ
  supportedItlsUs : List ℤ
deriving DecidableEq

def TimingCoverage.fullItlCoverage (coverage : TimingCoverage) : Bool :=
  coverage.supportedItlIntervals = coverage.expectedItlIntervals

/-! ## `evaluate_token_timing` -/

/-- What a chunk adds to `exact_timestamps`. -/
def TokenChunkTiming.tokenTimes (chunk : TokenChunkTiming) : List (Option ℤ) :=
  match chunk.perTokenObservedAtUs with
  | some timestamps => timestamps.map some
  | none =>
    if chunk.tokenCount = 1 then [some chunk.chunkObservedAtUs]
    else List.replicate chunk.tokenCount.toNat none

/-- The chunk has several tokens and no time for any of them. -/
def TokenChunkTiming.Coalesced (chunk : TokenChunkTiming) : Prop :=
  chunk.perTokenObservedAtUs = none ∧ chunk.tokenCount ≠ 1

instance (chunk : TokenChunkTiming) : Decidable chunk.Coalesced :=
  inferInstanceAs (Decidable (_ ∧ _))

/-- The variables of the loop over the chunks. -/
structure TokenStream where
  exactTimestamps : List (Option ℤ) := []
  coalescedTokens : ℤ := 0
  nextIndex : ℤ := 0
  previousChunkTime : ℤ

/-- The assignments at the end of the loop body. -/
def TokenStream.push (stream : TokenStream) (chunk : TokenChunkTiming) : TokenStream where
  exactTimestamps := stream.exactTimestamps ++ chunk.tokenTimes
  coalescedTokens :=
    stream.coalescedTokens + if chunk.Coalesced then chunk.tokenCount else 0
  nextIndex := stream.nextIndex + chunk.tokenCount
  previousChunkTime := chunk.chunkObservedAtUs

/-- The loop body. -/
def readChunk (requestId : String) (requestStartedUs : ℤ) (stream : TokenStream)
    (chunk : TokenChunkTiming) : Except Error TokenStream := do
  chunk.validate
  require (chunk.requestId = requestId)
    (valueError "timing chunk belongs to a different request")
  require (chunk.firstTokenIndex = stream.nextIndex)
    (valueError "timing chunks must cover token indices exactly once")
  require (stream.previousChunkTime ≤ chunk.chunkObservedAtUs)
    (valueError "chunk timestamps must be nondecreasing")
  require (∀ timestamp ∈ chunk.perTokenObservedAtUs.getD [], requestStartedUs ≤ timestamp)
    (valueError "token timestamp precedes request start")
  pure (stream.push chunk)

/-- The intervals between neighbouring tokens that both have a time. -/
def supportedItls (exactTimestamps : List (Option ℤ)) : List ℤ :=
  (pairwise exactTimestamps).filterMap fun
    | (some previous, some current) => some (current - previous)
    | _ => none

/-- The record built from the token times. -/
def coverageOf (requestId : String) (requestStartedUs expectedOutputTokens : ℤ)
    (stream : TokenStream) : TimingCoverage :=
  let supported := supportedItls stream.exactTimestamps
  let expectedItls := max 0 (expectedOutputTokens - 1)
  { requestId := requestId
    outputTokens := expectedOutputTokens
    expectedItlIntervals := expectedItls
    supportedItlIntervals := supported.length
    coalescedTokens := stream.coalescedTokens
    itlCoverage := if expectedItls ≠ 0 then (supported.length : ℚ) / expectedItls else 1
    ttftUs := (stream.exactTimestamps.head?.getD none).map (· - requestStartedUs)
    supportedItlsUs := supported }

/-- What follows the loop. -/
def finishTiming (requestId : String) (requestStartedUs expectedOutputTokens : ℤ)
    (stream : TokenStream) : Except Error TimingCoverage := do
  require (stream.nextIndex = expectedOutputTokens)
    (valueError "timing chunks do not cover expected output tokens")
  require (∀ pair ∈ pairwise (stream.exactTimestamps.filterMap id), pair.1 ≤ pair.2)
    (valueError "exact token timestamps must be globally nondecreasing")
  pure (coverageOf requestId requestStartedUs expectedOutputTokens stream)

/-- The loop from a given state, and what follows it. -/
def evaluateFrom (requestId : String) (requestStartedUs expectedOutputTokens : ℤ)
    (stream : TokenStream) (chunks : List TokenChunkTiming) : Except Error TimingCoverage := do
  let stream ← chunks.foldlM (readChunk requestId requestStartedUs) stream
  finishTiming requestId requestStartedUs expectedOutputTokens stream

/-- Compute ITLs without inventing timestamps inside coalesced chunks. -/
def evaluateTokenTiming (requestId : String) (requestStartedUs expectedOutputTokens : ℤ)
    (chunks : List TokenChunkTiming) : Except Error TimingCoverage := do
  require (requestId ≠ "") (valueError "timing request ID must not be empty")
  requireNonnegativeInteger requestStartedUs "request start time"
  requireNonnegativeInteger expectedOutputTokens "expected output tokens"
  evaluateFrom requestId requestStartedUs expectedOutputTokens
    { previousChunkTime := requestStartedUs } chunks

/-! ## Cutting a stream -/

def tokenTimes (chunks : List TokenChunkTiming) : List (Option ℤ) :=
  chunks.flatMap (·.tokenTimes)

/-- Chunks of one token each, observed at the times given, with or without the time of
that token beside it. -/
inductive SingleTokens (requestId : String) : ℤ → List ℤ → List TokenChunkTiming → Prop
  | nil (index : ℤ) : SingleTokens requestId index [] []
  | cons {index time : ℤ} {times : List ℤ} {single : TokenChunkTiming}
      {singles : List TokenChunkTiming} (hid : single.requestId = requestId)
      (hindex : single.firstTokenIndex = index) (hcount : single.tokenCount = 1)
      (hobserved : single.chunkObservedAtUs = time)
      (htimes : single.perTokenObservedAtUs = none ∨ single.perTokenObservedAtUs = some [time])
      (hrest : SingleTokens requestId (index + 1) times singles) :
      SingleTokens requestId index (time :: times) (single :: singles)

def TokenChunkTiming.exactTimes (chunk : TokenChunkTiming) : List ℤ :=
  chunk.perTokenObservedAtUs.getD [chunk.chunkObservedAtUs]

/-- `group` is one chunk with the tokens of consecutive chunks, none coalesced, and the
time of each of them. It is observed no earlier than the last of them. -/
structure GroupsInto (chunks : List TokenChunkTiming) (group : TokenChunkTiming) : Prop where
  nonempty : chunks ≠ []
  exact : ∀ chunk ∈ chunks, ¬ chunk.Coalesced
  requestId : ∀ chunk ∈ chunks, group.requestId = chunk.requestId
  firstTokenIndex : ∀ first ∈ chunks.head?, group.firstTokenIndex = first.firstTokenIndex
  tokenCount : group.tokenCount = (chunks.map (·.tokenCount)).sum
  times : group.perTokenObservedAtUs = some (chunks.flatMap (·.exactTimes))
  observed : ∀ last ∈ chunks.getLast?, last.chunkObservedAtUs ≤ group.chunkObservedAtUs

/-- The time before which the next chunk may not be observed. -/
def observedBefore (requestStartedUs : ℤ) (chunks : List TokenChunkTiming) : ℤ :=
  (chunks.getLast?.map (·.chunkObservedAtUs)).getD requestStartedUs

/-! ## What a chunk must satisfy -/

section

variable {requestId : String} {started expected : ℤ} {stream final : TokenStream}
  {chunk : TokenChunkTiming} {chunks before after : List TokenChunkTiming}
  {coverage : TimingCoverage}

theorem checkTimestamps_eq_ok {observed previous : ℤ} {timestamps : List ℤ} :
    checkTimestamps observed previous timestamps = .ok () ↔
      (∀ t ∈ timestamps, 0 ≤ t ∧ t ≤ observed) ∧ (previous :: timestamps).Pairwise (· ≤ ·) := by
  induction timestamps generalizing previous with
  | nil => simp [checkTimestamps]
  | cons timestamp rest ih =>
    simp only [checkTimestamps, bind_eq_ok, requireNonnegativeInteger_eq_ok, require_eq_ok,
      exists_const,
      ih, forall_mem_cons, pairwise_cons]
    constructor
    · rintro ⟨hpos, ⟨hprevious, hobserved⟩, hrest, hle, hsorted⟩
      refine ⟨⟨⟨hpos, hobserved⟩, hrest⟩, ⟨hprevious, ?_⟩, hle, hsorted⟩
      intro t ht
      exact hprevious.trans (hle t ht)
    · rintro ⟨⟨⟨hpos, hobserved⟩, hrest⟩, ⟨hprevious, -⟩, hle, hsorted⟩
      exact ⟨hpos, ⟨hprevious, hobserved⟩, hrest, hle, hsorted⟩

/-- What `TokenChunkTiming.validate` lets pass. -/
structure TokenChunkTiming.Valid (chunk : TokenChunkTiming) : Prop where
  requestId : chunk.requestId ≠ ""
  firstTokenIndex : 0 ≤ chunk.firstTokenIndex
  tokenCount : 1 ≤ chunk.tokenCount
  observed : 0 ≤ chunk.chunkObservedAtUs
  timestamps : ∀ timestamps, chunk.perTokenObservedAtUs = some timestamps →
    (timestamps.length : ℤ) = chunk.tokenCount ∧
      (∀ t ∈ timestamps, 0 ≤ t ∧ t ≤ chunk.chunkObservedAtUs) ∧ timestamps.Pairwise (· ≤ ·)

theorem validate_eq_ok : chunk.validate = .ok () ↔ chunk.Valid := by
  unfold TokenChunkTiming.validate
  simp only [bind_eq_ok, requireNonnegativeInteger_eq_ok, require_eq_ok, exists_const,
    ]
  constructor
  · rintro ⟨hid, hfirst, hcount, hobserved, hrest⟩
    refine ⟨hid, hfirst, hcount, hobserved, ?_⟩
    intro timestamps htimes
    rw [htimes] at hrest
    simp only [bind_eq_ok, require_eq_ok, exists_const] at hrest
    have htimestamps := checkTimestamps_eq_ok.mp hrest.2
    exact ⟨hrest.1, htimestamps.1, (pairwise_cons.mp htimestamps.2).2⟩
  · rintro ⟨hid, hfirst, hcount, hobserved, htimestamps⟩
    refine ⟨hid, hfirst, hcount, hobserved, ?_⟩
    cases htimes : chunk.perTokenObservedAtUs with
    | none => rfl
    | some timestamps =>
      rcases htimestamps timestamps htimes with ⟨hlength, hbounds, hsorted⟩
      simp only [bind_eq_ok, require_eq_ok, exists_const]
      refine ⟨hlength, checkTimestamps_eq_ok.mpr ⟨hbounds, ?_⟩⟩
      refine pairwise_cons.mpr ⟨?_, hsorted⟩
      intro t ht
      have hpos := (hbounds t ht).1
      omega

/-- The tests of the loop body. -/
structure Reads (requestId : String) (started : ℤ) (stream : TokenStream)
    (chunk : TokenChunkTiming) : Prop where
  valid : chunk.Valid
  requestId : chunk.requestId = requestId
  firstTokenIndex : chunk.firstTokenIndex = stream.nextIndex
  observed : stream.previousChunkTime ≤ chunk.chunkObservedAtUs
  started : ∀ timestamp ∈ chunk.perTokenObservedAtUs.getD [], started ≤ timestamp

theorem readChunk_eq_ok : readChunk requestId started stream chunk = .ok final ↔
    Reads requestId started stream chunk ∧ stream.push chunk = final := by
  unfold readChunk
  simp only [bind_eq_ok, check_eq_ok, pure_eq_ok]
  constructor
  · rintro ⟨⟨⟩, hvalid, hid, hfirst, hobserved, hstarted, hfinal⟩
    exact ⟨⟨validate_eq_ok.mp hvalid, hid, hfirst, hobserved, hstarted⟩, hfinal⟩
  · rintro ⟨⟨hvalid, hid, hfirst, hobserved, hstarted⟩, hfinal⟩
    exact ⟨(), validate_eq_ok.mpr hvalid, hid, hfirst, hobserved, hstarted, hfinal⟩

/-- A chunk observed too early, and right otherwise. -/
theorem readChunk_early (hvalid : chunk.Valid) (hid : chunk.requestId = requestId)
    (hfirst : chunk.firstTokenIndex = stream.nextIndex)
    (hearly : chunk.chunkObservedAtUs < stream.previousChunkTime) :
    readChunk requestId started stream chunk =
      .error (valueError "chunk timestamps must be nondecreasing") := by
  have hlate : ¬ stream.previousChunkTime ≤ chunk.chunkObservedAtUs := not_le.mpr hearly
  unfold readChunk
  rw [validate_eq_ok.mpr hvalid]
  simp [bind, Except.bind, require, hid, hfirst, hlate]

/-! ## The loop -/

/-- `Walks requestId started stream chunks final`: the loop ends in `final`. -/
def Walks (requestId : String) (started : ℤ) (stream : TokenStream)
    (chunks : List TokenChunkTiming) (final : TokenStream) : Prop :=
  chunks.foldlM (readChunk requestId started) stream = .ok final

@[simp] theorem walks_nil : Walks requestId started stream [] final ↔ stream = final := by
  simp [Walks]

@[simp] theorem walks_cons : Walks requestId started stream (chunk :: chunks) final ↔
    Reads requestId started stream chunk ∧
      Walks requestId started (stream.push chunk) chunks final := by
  unfold Walks
  rw [List.foldlM_cons, bind_eq_ok]
  constructor
  · rintro ⟨next, hread, hrest⟩
    rcases readChunk_eq_ok.mp hread with ⟨hreads, rfl⟩
    exact ⟨hreads, hrest⟩
  · rintro ⟨hreads, hrest⟩
    exact ⟨_, readChunk_eq_ok.mpr ⟨hreads, rfl⟩, hrest⟩

theorem walks_append : Walks requestId started stream (before ++ after) final ↔
    ∃ middle, Walks requestId started stream before middle ∧
      Walks requestId started middle after final := by
  unfold Walks
  rw [foldlM_append, bind_eq_ok]

section

variable (h : Walks requestId started stream chunks final)

include h

/-- What the loop has read so far. -/
theorem Walks.exactTimestamps :
    final.exactTimestamps = stream.exactTimestamps ++ tokenTimes chunks := by
  induction chunks generalizing stream with
  | nil =>
    rw [walks_nil] at h
    subst h
    simp [tokenTimes]
  | cons chunk rest ih =>
    have hrest := ih (walks_cons.mp h).2
    rw [hrest, TokenStream.push, tokenTimes, tokenTimes, flatMap_cons, append_assoc]

theorem Walks.nextIndex : final.nextIndex = stream.nextIndex + (chunks.map (·.tokenCount)).sum := by
  induction chunks generalizing stream with
  | nil =>
    rw [walks_nil] at h
    subst h
    simp
  | cons chunk rest ih =>
    have hrest := ih (walks_cons.mp h).2
    rw [hrest, TokenStream.push, map_cons, sum_cons]
    ring

theorem Walks.previousChunkTime :
    final.previousChunkTime = observedBefore stream.previousChunkTime chunks := by
  induction chunks generalizing stream with
  | nil =>
    rw [walks_nil] at h
    subst h
    rfl
  | cons chunk rest ih =>
    have hrest := ih (walks_cons.mp h).2
    rw [hrest, TokenStream.push, observedBefore, observedBefore, getLast?_cons]
    cases rest.getLast? <;> rfl

/-- The chunk times do not decrease. -/
theorem Walks.previous_le : stream.previousChunkTime ≤ final.previousChunkTime := by
  induction chunks generalizing stream with
  | nil =>
    rw [walks_nil] at h
    rw [h]
  | cons chunk rest ih =>
    rcases walks_cons.mp h with ⟨hreads, hrest⟩
    exact hreads.observed.trans (ih hrest)

end

/-- A chunk that is read has as many times as tokens. -/
theorem TokenChunkTiming.Valid.length_tokenTimes (h : chunk.Valid) :
    (chunk.tokenTimes.length : ℤ) = chunk.tokenCount := by
  have hcount := h.tokenCount
  unfold TokenChunkTiming.tokenTimes
  split
  · rename_i timestamps htimes
    rw [length_map]
    exact (h.timestamps timestamps htimes).1
  · split
    · rename_i hone
      rw [hone]
      rfl
    · rw [length_replicate]
      omega

theorem Walks.length_tokenTimes (h : Walks requestId started stream chunks final) :
    ((tokenTimes chunks).length : ℤ) = (chunks.map (·.tokenCount)).sum := by
  induction chunks generalizing stream with
  | nil => rfl
  | cons chunk rest ih =>
    rcases walks_cons.mp h with ⟨hreads, hrest⟩
    rw [tokenTimes, flatMap_cons, length_append, Nat.cast_add,
      hreads.valid.length_tokenTimes, map_cons, sum_cons, ← ih hrest, tokenTimes]

/-! ## The end of the loop -/

theorem forall_pairwise_iff {values : List ℤ} :
    (∀ pair ∈ pairwise values, pair.1 ≤ pair.2) ↔ values.Pairwise (· ≤ ·) := by
  rw [← isChain_iff_pairwise]
  induction values with
  | nil => simp [pairwise]
  | cons first rest ih =>
    cases rest with
    | nil => simp [pairwise]
    | cons second rest =>
      have hcons : pairwise (first :: second :: rest) =
          (first, second) :: pairwise (second :: rest) := rfl
      rw [hcons, forall_mem_cons, isChain_cons_cons, ih]

theorem finishTiming_eq_ok : finishTiming requestId started expected stream = .ok coverage ↔
    stream.nextIndex = expected ∧ (stream.exactTimestamps.filterMap id).Pairwise (· ≤ ·) ∧
      coverageOf requestId started expected stream = coverage := by
  unfold finishTiming
  simp only [bind_eq_ok, check_eq_ok, pure_eq_ok, forall_pairwise_iff]

theorem evaluateFrom_eq_ok : evaluateFrom requestId started expected stream chunks = .ok coverage ↔
    ∃ final, Walks requestId started stream chunks final ∧
      finishTiming requestId started expected final = .ok coverage := by
  unfold evaluateFrom Walks
  rw [bind_eq_ok]

/-- What has been read can be taken off the front. -/
theorem evaluateFrom_append {middle : TokenStream}
    (h : Walks requestId started stream before middle) :
    evaluateFrom requestId started expected stream (before ++ after) =
      evaluateFrom requestId started expected middle after := by
  unfold Walks at h
  unfold evaluateFrom
  rw [foldlM_append, h]
  rfl

/-- The time of the chunk before is read by the next chunk only, in one test. -/
theorem evaluateFrom_previous {previous previous' : ℤ}
    (h : ∀ next ∈ after.head?, previous ≤ next.chunkObservedAtUs ∧
      previous' ≤ next.chunkObservedAtUs) :
    evaluateFrom requestId started expected { stream with previousChunkTime := previous } after =
      evaluateFrom requestId started expected { stream with previousChunkTime := previous' } after := by
  cases after with
  | nil => rfl
  | cons next rest =>
    rcases h next rfl with ⟨hle, hle'⟩
    have hread : readChunk requestId started { stream with previousChunkTime := previous } next =
        readChunk requestId started { stream with previousChunkTime := previous' } next := by
      unfold readChunk
      simp only [require, hle, hle', if_true]
      rfl
    unfold evaluateFrom
    rw [List.foldlM_cons, List.foldlM_cons, hread]

/-- The checks before the loop. -/
structure Starts (requestId : String) (started expected : ℤ) : Prop where
  requestId : requestId ≠ ""
  started : 0 ≤ started
  expected : 0 ≤ expected

theorem evaluateTokenTiming_of_starts (h : Starts requestId started expected) :
    evaluateTokenTiming requestId started expected chunks =
      evaluateFrom requestId started expected { previousChunkTime := started } chunks := by
  unfold evaluateTokenTiming requireNonnegativeInteger
  simp [bind, Except.bind, require, h.requestId, h.started, h.expected]

theorem evaluateTokenTiming_eq_ok :
    evaluateTokenTiming requestId started expected chunks = .ok coverage ↔
      Starts requestId started expected ∧
        evaluateFrom requestId started expected { previousChunkTime := started } chunks =
          .ok coverage := by
  unfold evaluateTokenTiming
  simp only [bind_eq_ok, requireNonnegativeInteger_eq_ok, require_eq_ok, exists_const]
  constructor
  · rintro ⟨hid, hstarted, hexpected, h⟩
    exact ⟨⟨hid, hstarted, hexpected⟩, h⟩
  · rintro ⟨⟨hid, hstarted, hexpected⟩, h⟩
    exact ⟨hid, hstarted, hexpected, h⟩

/-! ## One chunk cut into tokens -/

theorem TokenChunkTiming.tokenTimes_of_exact (hexact : ¬ chunk.Coalesced) :
    chunk.tokenTimes = chunk.exactTimes.map some := by
  unfold TokenChunkTiming.tokenTimes TokenChunkTiming.exactTimes
  cases htimes : chunk.perTokenObservedAtUs with
  | some timestamps => rfl
  | none =>
    have hone : chunk.tokenCount = 1 := by
      by_contra hne
      exact hexact ⟨htimes, hne⟩
    simp [hone]

/-- A chunk of one token at a time that is not negative is well formed. -/
theorem valid_of_single {time : ℤ} (hid : chunk.requestId ≠ "") (hfirst : 0 ≤ chunk.firstTokenIndex)
    (hcount : chunk.tokenCount = 1) (hobserved : chunk.chunkObservedAtUs = time) (htime : 0 ≤ time)
    (htimes : chunk.perTokenObservedAtUs = none ∨ chunk.perTokenObservedAtUs = some [time]) :
    chunk.Valid := by
  refine ⟨hid, hfirst, by omega, by omega, ?_⟩
  intro timestamps hsome
  rcases htimes with htimes | htimes
  · rw [htimes] at hsome
    cases hsome
  · rw [htimes] at hsome
    cases hsome
    refine ⟨by simp [hcount], ?_, pairwise_singleton _ _⟩
    intro t ht
    rw [mem_singleton] at ht
    omega

/-- What a chunk of one token adds. -/
theorem push_single {time : ℤ} (hcount : chunk.tokenCount = 1)
    (hobserved : chunk.chunkObservedAtUs = time)
    (htimes : chunk.perTokenObservedAtUs = none ∨ chunk.perTokenObservedAtUs = some [time]) :
    stream.push chunk =
      { exactTimestamps := stream.exactTimestamps ++ [some time]
        coalescedTokens := stream.coalescedTokens
        nextIndex := stream.nextIndex + 1
        previousChunkTime := time } := by
  have hexact : ¬ chunk.Coalesced := fun h => h.2 hcount
  unfold TokenStream.push TokenChunkTiming.tokenTimes
  rcases htimes with htimes | htimes <;> simp [htimes, hcount, hobserved, hexact]

/-- The chunks of single tokens are read when the first is not observed too early. The
induction is on the times, and each chunk is observed at the time of the one before or later. -/
theorem SingleTokens.walks {index : ℤ} {times : List ℤ} {singles : List TokenChunkTiming}
    (h : SingleTokens requestId index times singles) (hid : requestId ≠ "") (hindex : 0 ≤ index)
    (hnext : stream.nextIndex = index) (hbounds : ∀ t ∈ times, 0 ≤ t ∧ started ≤ t)
    (hsorted : times.Pairwise (· ≤ ·))
    (hfirst : ∀ first ∈ times.head?, stream.previousChunkTime ≤ first) :
    Walks requestId started stream singles
      { exactTimestamps := stream.exactTimestamps ++ times.map some
        coalescedTokens := stream.coalescedTokens
        nextIndex := stream.nextIndex + times.length
        previousChunkTime := times.getLast?.getD stream.previousChunkTime } := by
  induction h generalizing stream with
  | nil => simp
  | @cons index time times single singles hsid hsindex hcount hobserved htimes hrest ih =>
    have htime := hbounds time mem_cons_self
    rw [pairwise_cons] at hsorted
    rw [walks_cons, push_single hcount hobserved htimes]
    constructor
    · refine ⟨?_, hsid, by omega, ?_, ?_⟩
      · exact valid_of_single (by rwa [hsid]) (by omega) hcount hobserved htime.1 htimes
      · rw [hobserved]
        exact hfirst time rfl
      · intro t ht
        rcases htimes with htimes | htimes
        · rw [htimes] at ht
          cases ht
        · rw [htimes, Option.getD_some, mem_singleton] at ht
          omega
    · have hwalk := @ih
          { exactTimestamps := stream.exactTimestamps ++ [some time]
            coalescedTokens := stream.coalescedTokens
            nextIndex := stream.nextIndex + 1
            previousChunkTime := time } (by omega) (by simp [hnext])
          (fun t ht => hbounds t (mem_cons_of_mem _ ht)) hsorted.2
          (fun t ht => hsorted.1 t (mem_of_mem_head? ht))
      have hlast : (time :: times).getLast?.getD stream.previousChunkTime =
          times.getLast?.getD time := by
        rw [getLast?_cons]
        rfl
      have hindices : stream.nextIndex + ((time :: times).length : ℕ) =
          stream.nextIndex + 1 + times.length := by
        rw [length_cons, Nat.cast_add, Nat.cast_one]
        ring
      have hread : stream.exactTimestamps ++ (time :: times).map some =
          stream.exactTimestamps ++ [some time] ++ times.map some := by
        rw [map_cons, append_cons]
      rw [hlast, hindices, hread]
      exact hwalk

def SplitsInto (chunk : TokenChunkTiming) (first : ℤ) (singles : List TokenChunkTiming) : Prop :=
  ∃ rest, chunk.perTokenObservedAtUs = some (first :: rest) ∧
    SingleTokens chunk.requestId chunk.firstTokenIndex (first :: rest) singles

/-- What reading a chunk that has been read says of its times. -/
theorem Reads.timestamps (h : Reads requestId started stream chunk) {timestamps : List ℤ}
    (htimes : chunk.perTokenObservedAtUs = some timestamps) :
    (timestamps.length : ℤ) = chunk.tokenCount ∧ timestamps.Pairwise (· ≤ ·) ∧
      ∀ t ∈ timestamps, 0 ≤ t ∧ started ≤ t ∧ t ≤ chunk.chunkObservedAtUs := by
  rcases h.valid.timestamps timestamps htimes with ⟨hlength, hbounds, hsorted⟩
  refine ⟨hlength, hsorted, ?_⟩
  intro t ht
  have hstarted := h.started t (by rwa [htimes])
  exact ⟨(hbounds t ht).1, hstarted, (hbounds t ht).2⟩

/-- The chunk that follows is observed no earlier than the one that was read. -/
theorem previous_le_of_evaluateFrom
    (h : evaluateFrom requestId started expected stream after = .ok coverage) :
    ∀ next ∈ after.head?, stream.previousChunkTime ≤ next.chunkObservedAtUs := by
  intro next hnext
  rcases evaluateFrom_eq_ok.mp h with ⟨final, hwalk, -⟩
  cases after with
  | nil => cases hnext
  | cons first rest =>
    cases hnext
    exact (walks_cons.mp hwalk).1.observed

/-- Cutting a chunk of a stream that is accepted. -/
theorem evaluateFrom_split {first : ℤ} {singles : List TokenChunkTiming}
    (hsplit : SplitsInto chunk first singles)
    (h : evaluateFrom requestId started expected stream (chunk :: after) = .ok coverage) :
    evaluateFrom requestId started expected stream (singles ++ after) =
      if stream.previousChunkTime ≤ first then .ok coverage
      else .error (valueError "chunk timestamps must be nondecreasing") := by
  rcases evaluateFrom_eq_ok.mp h with ⟨final, hwalk, hfinish⟩
  rcases walks_cons.mp hwalk with ⟨hreads, hafter⟩
  rcases hsplit with ⟨rest, htimes, hsingles⟩
  rcases hreads.timestamps htimes with ⟨hlength, hsorted, hbounds⟩
  have hid : requestId ≠ "" := hreads.requestId ▸ hreads.valid.requestId
  rw [hreads.requestId] at hsingles
  split
  · rename_i hle
    have hsinglesWalk := hsingles.walks hid hreads.valid.firstTokenIndex
      hreads.firstTokenIndex.symm (fun t ht => ⟨(hbounds t ht).1, (hbounds t ht).2.1⟩) hsorted
      (fun t ht => by cases ht; exact hle)
    rw [evaluateFrom_append hsinglesWalk, ← evaluateFrom_eq_ok.mpr ⟨final, hafter, hfinish⟩]
    have hexact : ¬ chunk.Coalesced := by
      rintro ⟨hnone, -⟩
      rw [htimes] at hnone
      cases hnone
    have hpush : stream.push chunk =
        { exactTimestamps := stream.exactTimestamps ++ (first :: rest).map some
          coalescedTokens := stream.coalescedTokens
          nextIndex := stream.nextIndex + (first :: rest).length
          previousChunkTime := chunk.chunkObservedAtUs } := by
      rw [TokenStream.push, TokenChunkTiming.tokenTimes, htimes, hlength, if_neg hexact, add_zero]
    -- the two states differ in the time of the last chunk only
    have hcut : ({ exactTimestamps := stream.exactTimestamps ++ (first :: rest).map some
                   coalescedTokens := stream.coalescedTokens
                   nextIndex := stream.nextIndex + ((first :: rest).length : ℕ)
                   previousChunkTime :=
                     (first :: rest).getLast?.getD stream.previousChunkTime } : TokenStream) =
        { stream.push chunk with
          previousChunkTime := (first :: rest).getLast?.getD stream.previousChunkTime } := by
      rw [hpush]
    rw [hcut]
    have hnexts : ∀ next ∈ after.head?, chunk.chunkObservedAtUs ≤ next.chunkObservedAtUs :=
      previous_le_of_evaluateFrom (evaluateFrom_eq_ok.mpr ⟨final, hafter, hfinish⟩)
    refine @evaluateFrom_previous requestId started expected (stream.push chunk) after _ _ ?_
    intro next hnext
    have hobserved := hnexts next hnext
    have hlast : (first :: rest).getLast (cons_ne_nil _ _) ≤ chunk.chunkObservedAtUs :=
      (hbounds _ (getLast_mem _)).2.2
    rw [getLast?_eq_some_getLast (cons_ne_nil _ _), Option.getD_some]
    exact ⟨hlast.trans hobserved, hobserved⟩
  · rename_i hearly
    cases hsingles with
    | @cons _ _ _ single singles hsid hsindex hcount hobserved hstimes hrest =>
      have hraises : readChunk requestId started stream single =
          .error (valueError "chunk timestamps must be nondecreasing") := by
        apply readChunk_early
        · exact valid_of_single (by rwa [hsid]) (hsindex ▸ hreads.valid.firstTokenIndex) hcount
            hobserved (hbounds first mem_cons_self).1 hstimes
        · exact hsid
        · rw [hsindex, hreads.firstTokenIndex]
        · rw [hobserved]
          exact not_le.mp hearly
      unfold evaluateFrom
      rw [cons_append, List.foldlM_cons, hraises]
      rfl

/-! ## Chunks put together -/

/-- Without a coalesced chunk every token read has a time. -/
theorem tokenTimes_of_exact (hexact : ∀ chunk ∈ chunks, ¬ chunk.Coalesced) :
    tokenTimes chunks = (chunks.flatMap (·.exactTimes)).map some := by
  unfold tokenTimes
  rw [map_flatMap]
  exact flatMap_congr fun chunk hchunk =>
    TokenChunkTiming.tokenTimes_of_exact (hexact chunk hchunk)

theorem Walks.coalescedTokens (h : Walks requestId started stream chunks final)
    (hexact : ∀ chunk ∈ chunks, ¬ chunk.Coalesced) :
    final.coalescedTokens = stream.coalescedTokens := by
  induction chunks generalizing stream with
  | nil =>
    rw [walks_nil] at h
    rw [h]
  | cons chunk rest ih =>
    rw [forall_mem_cons] at hexact
    have hrest := ih (walks_cons.mp h).2 hexact.2
    rw [hrest, TokenStream.push, if_neg hexact.1, add_zero]

/-- The times of chunks that were read lie between the start and the last chunk. -/
theorem Walks.exactTimes_bounds (h : Walks requestId started stream chunks final)
    (hstarted : started ≤ stream.previousChunkTime) :
    ∀ t ∈ chunks.flatMap (·.exactTimes), 0 ≤ t ∧ started ≤ t ∧ t ≤ final.previousChunkTime := by
  induction chunks generalizing stream with
  | nil => simp
  | cons chunk rest ih =>
    rcases walks_cons.mp h with ⟨hreads, hrest⟩
    have hobserved : started ≤ chunk.chunkObservedAtUs := hstarted.trans hreads.observed
    have hlast : chunk.chunkObservedAtUs ≤ final.previousChunkTime := hrest.previous_le
    intro t ht
    rw [flatMap_cons, mem_append] at ht
    rcases ht with ht | ht
    · unfold TokenChunkTiming.exactTimes at ht
      cases htimes : chunk.perTokenObservedAtUs with
      | none =>
        rw [htimes, Option.getD_none, mem_singleton] at ht
        have hpos := hreads.valid.observed
        omega
      | some timestamps =>
        rw [htimes, Option.getD_some] at ht
        have hbounds := (hreads.timestamps htimes).2.2 t ht
        omega
    · exact ih hrest hobserved t ht

/-- Later chunks are read behind the earlier ones. -/
theorem sorted_of_evaluateFrom
    (h : evaluateFrom requestId started expected stream after = .ok coverage) :
    (stream.exactTimestamps.filterMap id).Pairwise (· ≤ ·) := by
  rcases evaluateFrom_eq_ok.mp h with ⟨final, hwalk, hfinish⟩
  have hsorted := (finishTiming_eq_ok.mp hfinish).2.1
  rw [hwalk.exactTimestamps, filterMap_append] at hsorted
  exact (pairwise_append.mp hsorted).1

/-- Putting chunks of a stream together that is accepted. -/
theorem evaluateFrom_group {group : TokenChunkTiming} (hgroup : GroupsInto chunks group)
    (hstarted : started ≤ stream.previousChunkTime)
    (hnext : ∀ next ∈ after.head?, group.chunkObservedAtUs ≤ next.chunkObservedAtUs)
    (h : evaluateFrom requestId started expected stream (chunks ++ after) = .ok coverage) :
    evaluateFrom requestId started expected stream (group :: after) = .ok coverage := by
  rcases evaluateFrom_eq_ok.mp h with ⟨final, hwalk, hfinish⟩
  rcases walks_append.mp hwalk with ⟨middle, hchunks, hafter⟩
  have hrest : evaluateFrom requestId started expected middle after = .ok coverage :=
    evaluateFrom_eq_ok.mpr ⟨final, hafter, hfinish⟩
  have htimes := tokenTimes_of_exact hgroup.exact
  have hread : middle.exactTimestamps =
      stream.exactTimestamps ++ (chunks.flatMap (·.exactTimes)).map some := by
    rw [hchunks.exactTimestamps, htimes]
  have hlength : ((chunks.flatMap (·.exactTimes)).length : ℤ) = group.tokenCount := by
    rw [hgroup.tokenCount, ← hchunks.length_tokenTimes, htimes, length_map]
  have hsorted : (chunks.flatMap (·.exactTimes)).Pairwise (· ≤ ·) := by
    have hall := sorted_of_evaluateFrom hrest
    rw [hread, filterMap_append] at hall
    simpa using (pairwise_append.mp hall).2.1
  have hbounds := hchunks.exactTimes_bounds hstarted
  -- the group is observed after the last of its chunks
  have hobserved : middle.previousChunkTime ≤ group.chunkObservedAtUs := by
    rw [hchunks.previousChunkTime, observedBefore]
    cases hlast : chunks.getLast? with
    | none => exact absurd (getLast?_eq_none_iff.mp hlast) hgroup.nonempty
    | some last => exact hgroup.observed last hlast
  have hexact : ¬ group.Coalesced := by
    rintro ⟨hnone, -⟩
    rw [hgroup.times] at hnone
    cases hnone
  have hreads : Reads requestId started stream group := by
    cases hcons : chunks with
    | nil => exact absurd hcons hgroup.nonempty
    | cons first rest =>
      have hmem : first ∈ chunks := by
        rw [hcons]
        exact mem_cons_self
      have hfirst : Reads requestId started stream first := by
        rw [hcons] at hchunks
        exact (walks_cons.mp hchunks).1
      have hindex : group.firstTokenIndex = first.firstTokenIndex :=
        hgroup.firstTokenIndex first (by rw [hcons]; rfl)
      have hid : group.requestId = first.requestId := hgroup.requestId first hmem
      have hcount : 1 ≤ group.tokenCount := by
        -- the first chunk has a time
        have hpos : 0 < (chunks.flatMap (·.exactTimes)).length := by
          apply length_pos_of_ne_nil
          intro hnil
          have hnone : first.exactTimes = [] := flatMap_eq_nil_iff.mp hnil first hmem
          have hone := hfirst.valid.length_tokenTimes
          rw [TokenChunkTiming.tokenTimes_of_exact (hgroup.exact first hmem), hnone] at hone
          have hcount := hfirst.valid.tokenCount
          simp only [map_nil, length_nil, Nat.cast_zero] at hone
          omega
        omega
      have hprevious := hchunks.previous_le
      refine ⟨⟨?_, ?_, hcount, ?_, ?_⟩, ?_, ?_, ?_, ?_⟩
      · rw [hid]
        exact hfirst.valid.requestId
      · rw [hindex]
        exact hfirst.valid.firstTokenIndex
      · have hpos := hfirst.valid.observed
        have hfirst' := hfirst.observed
        have hlater : first.chunkObservedAtUs ≤ middle.previousChunkTime := by
          rw [hcons] at hchunks
          exact (walks_cons.mp hchunks).2.previous_le
        omega
      · intro timestamps hsome
        rw [hgroup.times] at hsome
        cases hsome
        refine ⟨hlength, ?_, hsorted⟩
        intro t ht
        exact ⟨(hbounds t ht).1, (hbounds t ht).2.2.trans hobserved⟩
      · rw [hid]
        exact hfirst.requestId
      · rw [hindex]
        exact hfirst.firstTokenIndex
      · exact hprevious.trans hobserved
      · intro t ht
        rw [hgroup.times, Option.getD_some] at ht
        exact (hbounds t ht).2.1
  have hpush : stream.push group =
      { middle with previousChunkTime := group.chunkObservedAtUs } := by
    rw [TokenStream.push, if_neg hexact, add_zero, TokenChunkTiming.tokenTimes, hgroup.times,
      hgroup.tokenCount, ← hread, ← hchunks.nextIndex, ← hchunks.coalescedTokens hgroup.exact]
  have hwalkGroup : Walks requestId started stream [group] (stream.push group) :=
    walks_cons.mpr ⟨hreads, walks_nil.mpr rfl⟩
  have hcut : evaluateFrom requestId started expected stream ([group] ++ after) =
      evaluateFrom requestId started expected (stream.push group) after :=
    evaluateFrom_append hwalkGroup
  rw [singleton_append] at hcut
  rw [hcut, hpush, ← hrest]
  refine @evaluateFrom_previous requestId started expected middle after
    group.chunkObservedAtUs middle.previousChunkTime ?_
  intro next hhead
  exact ⟨hnext next hhead, previous_le_of_evaluateFrom hrest next hhead⟩

/-! ## The intervals -/

theorem supportedItls_cons (first second : Option ℤ) (rest : List (Option ℤ)) :
    supportedItls (first :: second :: rest) =
      (match first, second with
        | some previous, some current => [current - previous]
        | _, _ => []) ++ supportedItls (second :: rest) := by
  unfold supportedItls
  rcases first with _ | previous
  · rfl
  · rcases second with _ | current <;> rfl

/-- An interval that starts or ends in a token without a time is left out. -/
theorem supportedItls_none (xs ys : List (Option ℤ)) :
    supportedItls (xs ++ none :: ys) = supportedItls xs ++ supportedItls ys := by
  have hstart : supportedItls (none :: ys) = supportedItls ys := by
    cases ys with
    | nil => rfl
    | cons y ys => rw [supportedItls_cons, nil_append]
  induction xs with
  | nil => rw [nil_append, hstart]; rfl
  | cons x xs ih =>
    cases xs with
    | nil =>
      have hend : supportedItls (x :: none :: ys) = supportedItls (none :: ys) := by
        rw [supportedItls_cons]
        cases x <;> rfl
      rw [singleton_append, hend, hstart]
      rfl
    | cons x' xs =>
      rw [cons_append, cons_append, supportedItls_cons, ← cons_append, ih,
        supportedItls_cons, append_assoc]

theorem supportedItls_replicate {n : ℕ} (hn : 1 ≤ n) (xs ys : List (Option ℤ)) :
    supportedItls (xs ++ (List.replicate n none ++ ys)) = supportedItls xs ++ supportedItls ys := by
  induction n, hn using Nat.le_induction generalizing xs with
  | base => exact supportedItls_none xs ys
  | succ n _ ih =>
    have hnil : supportedItls ([] ++ (List.replicate n none ++ ys)) = supportedItls ys := by
      rw [ih]
      rfl
    rw [replicate_succ, cons_append, supportedItls_none, ← hnil, nil_append]

/-- Times that do not decrease have no negative interval between them. -/
theorem supportedItls_nonneg {tokens : List (Option ℤ)}
    (h : (tokens.filterMap id).Pairwise (· ≤ ·)) : ∀ itl ∈ supportedItls tokens, 0 ≤ itl := by
  induction tokens with
  | nil => simp [supportedItls, pairwise]
  | cons first rest ih =>
    have hrest : (rest.filterMap id).Pairwise (· ≤ ·) := by
      have hsub : (rest.filterMap id).Sublist ((first :: rest).filterMap id) :=
        (sublist_cons_self first rest).filterMap id
      exact h.sublist hsub
    cases rest with
    | nil => simp [supportedItls, pairwise]
    | cons second rest =>
      intro itl hitl
      rw [supportedItls_cons, mem_append] at hitl
      rcases hitl with hitl | hitl
      · rcases first with _ | previous
        · cases hitl
        · rcases second with _ | current
          · cases hitl
          · have hle : previous ≤ current := by
              simp only [filterMap_cons, id_eq, pairwise_cons] at h
              exact h.1 current mem_cons_self
            rw [mem_singleton] at hitl
            omega
      · exact ih hrest itl hitl

theorem length_supportedItls_le (tokens : List (Option ℤ)) :
    (supportedItls tokens).length ≤ tokens.length - 1 := by
  unfold supportedItls pairwise
  refine (length_filterMap_le _ _).trans ?_
  rw [length_zip, length_tail]
  omega

/-- The intervals between tokens that all have a time, and their sum. -/
theorem sum_supportedItls_map (first : ℤ) (times : List ℤ) :
    (supportedItls ((first :: times).map some)).sum = times.getLast?.getD first - first := by
  induction times generalizing first with
  | nil => simp [supportedItls, pairwise]
  | cons second rest ih =>
    have hrest := ih second
    rw [map_cons] at hrest
    rw [map_cons, map_cons, supportedItls_cons, sum_append, hrest,
      getLast?_cons, Option.getD_some, sum_singleton]
    ring

/-- With an interval for each pair of neighbours every token has a time. -/
theorem exists_times_of_length {tokens : List (Option ℤ)} (hlength : 2 ≤ tokens.length)
    (h : (supportedItls tokens).length = tokens.length - 1) :
    ∃ times : List ℤ, tokens = times.map some := by
  induction tokens with
  | nil => cases hlength
  | cons first rest ih =>
    cases rest with
    | nil => simp at hlength
    | cons second rest =>
      have hle := length_supportedItls_le (second :: rest)
      rw [supportedItls_cons, length_append, length_cons, length_cons] at h
      rw [length_cons] at hle
      rcases first with _ | previous
      · simp only [length_nil] at h
        omega
      · rcases second with _ | current
        · simp only [length_nil] at h
          omega
        · simp only [length_singleton] at h
          cases rest with
          | nil => exact ⟨[previous, current], rfl⟩
          | cons third rest =>
            rcases ih (by simp) (by simp only [length_cons] at h ⊢; omega)
              with ⟨times, htimes⟩
            exact ⟨previous :: times, by rw [htimes]; rfl⟩

/-- What is accepted was read by the loop, and its coverage is that of the token times. -/
theorem evaluateTokenTiming_spec
    (h : evaluateTokenTiming requestId started expected chunks = .ok coverage) :
    ∃ final, Walks requestId started { previousChunkTime := started } chunks final ∧
      final.exactTimestamps = tokenTimes chunks ∧ ((tokenTimes chunks).length : ℤ) = expected ∧
      ((tokenTimes chunks).filterMap id).Pairwise (· ≤ ·) ∧
      coverageOf requestId started expected final = coverage := by
  rcases evaluateFrom_eq_ok.mp (evaluateTokenTiming_eq_ok.mp h).2 with ⟨final, hwalk, hfinish⟩
  rcases finishTiming_eq_ok.mp hfinish with ⟨hnext, hsorted, hcoverage⟩
  have htimes : final.exactTimestamps = tokenTimes chunks := by
    rw [hwalk.exactTimestamps, nil_append]
  have hlength : ((tokenTimes chunks).length : ℤ) = expected := by
    rw [hwalk.length_tokenTimes, ← hnext, hwalk.nextIndex, zero_add]
  rw [htimes] at hsorted
  exact ⟨final, hwalk, htimes, hlength, hsorted, hcoverage⟩

/-- At most one token, and every token has a time. -/
theorem exists_times_of_short (h : Walks requestId started stream chunks final)
    (hlength : (tokenTimes chunks).length ≤ 1) :
    ∃ times : List ℤ, tokenTimes chunks = times.map some := by
  refine ⟨chunks.flatMap (·.exactTimes), tokenTimes_of_exact ?_⟩
  induction chunks generalizing stream with
  | nil => simp
  | cons chunk rest ih =>
    rcases walks_cons.mp h with ⟨hreads, hrest⟩
    have hcount := hreads.valid.length_tokenTimes
    have hpos := hreads.valid.tokenCount
    rw [tokenTimes, flatMap_cons, length_append, ← tokenTimes] at hlength
    rw [forall_mem_cons]
    constructor
    · rintro ⟨-, hne⟩
      omega
    · exact ih hrest (by omega)

/-- The intervals of a stream that is accepted. -/
theorem itls_of_accepted
    (h : evaluateTokenTiming requestId started expected chunks = .ok coverage) :
    (∀ itl ∈ coverage.supportedItlsUs, 0 ≤ itl) ∧
      (coverage.fullItlCoverage = true → ∃ times : List ℤ, tokenTimes chunks = times.map some ∧
        coverage.supportedItlsUs.sum = times.getLast?.getD 0 - times.head?.getD 0) ∧
      ∀ before chunk after, chunks = before ++ chunk :: after → chunk.Coalesced →
        coverage.supportedItlsUs =
          supportedItls (tokenTimes before) ++ supportedItls (tokenTimes after) := by
  rcases evaluateTokenTiming_spec h with ⟨final, hwalk, htimes, hlength, hsorted, rfl⟩
  have hitls : (coverageOf requestId started expected final).supportedItlsUs =
      supportedItls (tokenTimes chunks) := by
    rw [coverageOf, htimes]
  rw [hitls]
  refine ⟨supportedItls_nonneg hsorted, ?_, ?_⟩
  · intro hfull
    have hcount : ((supportedItls (tokenTimes chunks)).length : ℤ) = max 0 (expected - 1) := by
      simpa [TimingCoverage.fullItlCoverage, coverageOf, htimes] using hfull
    -- with every interval supported no token lacks a time
    have hall : ∃ times : List ℤ, tokenTimes chunks = times.map some := by
      rcases Nat.lt_or_ge (tokenTimes chunks).length 2 with hshort | hlong
      · exact exists_times_of_short hwalk (by omega)
      · exact exists_times_of_length hlong (by omega)
    rcases hall with ⟨times, hall⟩
    refine ⟨times, hall, ?_⟩
    rw [hall]
    cases times with
    | nil => rfl
    | cons first rest =>
      rw [sum_supportedItls_map, getLast?_cons]
      rfl
  · rintro before chunk after rfl ⟨hnone, hne⟩
    rcases walks_append.mp hwalk with ⟨middle, -, hafter⟩
    have hpos := (walks_cons.mp hafter).1.valid.tokenCount
    -- the tokens of the chunk have no times of their own
    have hchunk : chunk.tokenTimes = List.replicate chunk.tokenCount.toNat none := by
      rw [TokenChunkTiming.tokenTimes, hnone]
      exact if_neg hne
    have hsplit : tokenTimes (before ++ chunk :: after) = tokenTimes before ++
        (List.replicate chunk.tokenCount.toNat none ++ tokenTimes after) := by
      rw [tokenTimes, flatMap_append, flatMap_cons, hchunk]
      rfl
    rw [hsplit]
    exact supportedItls_replicate (by omega) _ _

/-! ## Regrouping -/

/-- A stream that is accepted stays accepted, with the same coverage, when consecutive chunks
that time all their tokens are put together, and when a chunk is cut into its tokens unless its
first token is timed before the chunk in front of it; then it is refused. -/
theorem timing_regrouped (requestId : String) (started expected : ℤ) (coverage : TimingCoverage) :
    (∀ before chunk after first singles, SplitsInto chunk first singles →
      evaluateTokenTiming requestId started expected (before ++ chunk :: after) = .ok coverage →
        evaluateTokenTiming requestId started expected (before ++ (singles ++ after)) =
          if observedBefore started before ≤ first then .ok coverage
          else .error (valueError "chunk timestamps must be nondecreasing")) ∧
    (∀ before chunks group after, GroupsInto chunks group →
      (∀ next ∈ after.head?, group.chunkObservedAtUs ≤ next.chunkObservedAtUs) →
      evaluateTokenTiming requestId started expected (before ++ (chunks ++ after)) = .ok coverage →
        evaluateTokenTiming requestId started expected (before ++ group :: after) =
          .ok coverage) ∧
    ∀ chunks, evaluateTokenTiming requestId started expected chunks = .ok coverage →
      (∀ itl ∈ coverage.supportedItlsUs, 0 ≤ itl) ∧
        (coverage.fullItlCoverage = true → ∃ times : List ℤ, tokenTimes chunks = times.map some ∧
          coverage.supportedItlsUs.sum = times.getLast?.getD 0 - times.head?.getD 0) ∧
        ∀ before chunk after, chunks = before ++ chunk :: after → chunk.Coalesced →
          coverage.supportedItlsUs =
            supportedItls (tokenTimes before) ++ supportedItls (tokenTimes after) := by
  refine ⟨?_, ?_, fun chunks h => itls_of_accepted h⟩
  · intro before chunk after first singles hsplit h
    rcases evaluateTokenTiming_eq_ok.mp h with ⟨hstarts, h⟩
    rcases evaluateFrom_eq_ok.mp h with ⟨final, hwalk, hfinish⟩
    rcases walks_append.mp hwalk with ⟨middle, hbefore, hafter⟩
    have hprevious : middle.previousChunkTime = observedBefore started before :=
      hbefore.previousChunkTime
    rw [evaluateTokenTiming_of_starts hstarts, evaluateFrom_append hbefore, ← hprevious]
    exact evaluateFrom_split hsplit (evaluateFrom_eq_ok.mpr ⟨final, hafter, hfinish⟩)
  · intro before chunks group after hgroup hnext h
    rcases evaluateTokenTiming_eq_ok.mp h with ⟨hstarts, h⟩
    rcases evaluateFrom_eq_ok.mp h with ⟨final, hwalk, hfinish⟩
    rcases walks_append.mp hwalk with ⟨middle, hbefore, hafter⟩
    have hstarted : started ≤ middle.previousChunkTime := hbefore.previous_le
    rw [evaluateTokenTiming_of_starts hstarts, evaluateFrom_append hbefore]
    exact evaluateFrom_group hgroup hstarted hnext
      (evaluateFrom_eq_ok.mpr ⟨final, hafter, hfinish⟩)

end

/-! ## A pair of timed tokens -/

/-- Two tokens timed at 5 and 12 after two coalesced ones. -/
def timedPair : TokenChunkTiming := ⟨"r", 2, 2, 12, some [5, 12]⟩

/-- The tokens of `timedPair`, each alone. -/
def timedSingles : List TokenChunkTiming := [⟨"r", 2, 1, 5, none⟩, ⟨"r", 3, 1, 12, none⟩]

theorem timedPair_splits : SplitsInto timedPair 5 timedSingles :=
  ⟨[12], rfl, .cons rfl rfl rfl rfl (.inl rfl) (.cons rfl rfl rfl rfl (.inl rfl) (.nil _))⟩

theorem timedSingles_group : GroupsInto timedSingles timedPair where
  nonempty := by decide
  exact := by decide
  requestId := by decide
  firstTokenIndex := by decide
  tokenCount := by decide
  times := by decide
  observed := by decide

/-- The coverage of two coalesced tokens and the pair. -/
def timedCoverage : TimingCoverage := ⟨"r", 4, 3, 1, 2, 1 / 3, none, [7]⟩

/-- The stream of two timed pairs, with a time for every token. -/
def timedStream : List TokenChunkTiming := [⟨"r", 0, 2, 4, some [3, 4]⟩, timedPair]

def fullCoverage : TimingCoverage := ⟨"r", 4, 3, 3, 0, 1, some 3, [1, 1, 7]⟩

theorem timing_regrouped_pair :
    evaluateTokenTiming "r" 0 4 ([⟨"r", 0, 2, 3, none⟩] ++ (timedSingles ++ [])) =
        (if observedBefore 0 [⟨"r", 0, 2, 3, none⟩] ≤ 5 then .ok timedCoverage
          else .error (valueError "chunk timestamps must be nondecreasing")) ∧
      evaluateTokenTiming "r" 0 4 ([⟨"r", 0, 2, 3, none⟩] ++ timedPair :: []) =
        .ok timedCoverage ∧
      (∀ itl ∈ timedCoverage.supportedItlsUs, 0 ≤ itl) ∧
      ∃ times : List ℤ, tokenTimes timedStream = times.map some ∧
        fullCoverage.supportedItlsUs.sum = times.getLast?.getD 0 - times.head?.getD 0 :=
  ⟨(timing_regrouped "r" 0 4 timedCoverage).1 _ timedPair [] 5 timedSingles timedPair_splits rfl,
    (timing_regrouped "r" 0 4 timedCoverage).2.1 _ timedSingles timedPair [] timedSingles_group
      (by decide) rfl,
    ((timing_regrouped "r" 0 4 timedCoverage).2.2 (⟨"r", 0, 2, 3, none⟩ :: timedSingles) rfl).1,
    ((timing_regrouped "r" 0 4 fullCoverage).2.2 timedStream (by decide +kernel)).2.1 rfl⟩

/-- The coalesced tokens are observed at 10, after the first token of the pair. -/
theorem split_refused : ¬ ∀ before chunk after first singles coverage,
    SplitsInto chunk first singles →
      evaluateTokenTiming "r" 0 4 (before ++ chunk :: after) = .ok coverage →
        evaluateTokenTiming "r" 0 4 (before ++ (singles ++ after)) = .ok coverage := by
  intro h
  have hcut := h [⟨"r", 0, 2, 10, none⟩] timedPair [] 5 timedSingles timedCoverage
    timedPair_splits rfl
  have hraises : evaluateTokenTiming "r" 0 4 ([⟨"r", 0, 2, 10, none⟩] ++ (timedSingles ++ [])) =
      .error (valueError "chunk timestamps must be nondecreasing") := rfl
  rw [hraises] at hcut
  cases hcut

end Load
