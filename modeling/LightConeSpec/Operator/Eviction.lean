import Mathlib.Logic.Relation
import LightConeSpec.Operator.Archive

/-!
# Eviction after verification

The rows of one archive form a chain: it is registered, each step is recorded once
and in order, and the eviction is authorised last (`Later`, `Recorded`). A call on
the store moves each archive along its chain, so what an authorisation rests on is
read off the chain, and a stored receipt stays.
-/

namespace Operator

open Python Machine Relation List

/-! ## One archive -/

/-- One move of an archive, with the receipt of its event. -/
inductive Later : ArchiveRow → ArchiveRow → Option ArchiveStepReceipt → Prop
  | record {row : ArchiveRow} {receipt : ArchiveStepReceipt} {recorded : Int}
      (hmanifest : receipt.manifestSha256 = row.request.remoteManifestSha256)
      (htime : row.updatedAtNs ≤ recorded) (hfresh : row.receipt receipt.step = none)
      (hstate : row.state = receipt.step.expectedState)
      (hcover : ArchiveStore.requireCoverage row receipt = .ok ()) :
      Later row (row.advance receipt recorded) (some receipt)
  | authorize {row : ArchiveRow} {authorized : Int} (hstate : row.state = .rehydrateVerified)
      (htime : row.updatedAtNs ≤ authorized) :
      Later row (row.authorize authorized) none

inductive Recorded : ArchiveRow → List ArchiveEvent → Prop
  | registered (request : ArchiveRequest) (registered : Int) :
      Recorded { request := request, state := .registered, createdAtNs := registered,
                 updatedAtNs := registered }
        [⟨request.archiveId, .registered, none, registered⟩]
  | later {row row' : ArchiveRow} {events : List ArchiveEvent}
      {receipt : Option ArchiveStepReceipt} (h : Recorded row events)
      (hlater : Later row row' receipt) :
      Recorded row' (events ++ [⟨row.request.archiveId, row'.state, receipt, row'.updatedAtNs⟩])

theorem ArchiveStep.nextState_injective {step step' : ArchiveStep}
    (h : step.nextState = step'.nextState) : step = step' := by
  cases step <;> cases step' <;> first | rfl | cases h

theorem ArchiveStep.nextState_ne (step : ArchiveStep) :
    step.nextState ≠ .registered ∧ step.nextState ≠ .evictionAuthorized := by
  cases step <;> exact ⟨nofun, nofun⟩

theorem ArchiveStep.expectedState_ne (step : ArchiveStep) :
    step.expectedState ≠ .evictionAuthorized := by
  cases step <;> exact nofun

variable {s s' : ArchiveStore} {row row' : ArchiveRow} {archiveId : String}
  {result : RemoteEvictionAuthorization}

namespace ArchiveRow

@[simp] theorem advance_request (row : ArchiveRow) (receipt : ArchiveStepReceipt)
    (recorded : Int) : (row.advance receipt recorded).request = row.request := by
  unfold advance
  split <;> rfl

@[simp] theorem advance_state (row : ArchiveRow) (receipt : ArchiveStepReceipt)
    (recorded : Int) : (row.advance receipt recorded).state = receipt.step.nextState := by
  unfold advance
  split <;> rename_i h <;> rw [h] <;> rfl

@[simp] theorem advance_updatedAtNs (row : ArchiveRow) (receipt : ArchiveStepReceipt)
    (recorded : Int) : (row.advance receipt recorded).updatedAtNs = recorded := by
  unfold advance
  split <;> rfl

theorem receipt_advance (row : ArchiveRow) (receipt : ArchiveStepReceipt) (recorded : Int)
    (step : ArchiveStep) : (row.advance receipt recorded).receipt step =
      if step = receipt.step then some receipt else row.receipt step := by
  unfold advance
  split <;> rename_i h <;> rw [h] <;> cases step <;> rfl

@[simp] theorem receipt_authorize (row : ArchiveRow) (authorized : Int) (step : ArchiveStep) :
    (row.authorize authorized).receipt step = row.receipt step := by
  cases step <;> rfl

@[simp] theorem authorize_request (row : ArchiveRow) (authorized : Int) :
    (row.authorize authorized).request = row.request := rfl

/-- What a later row keeps: its request, its receipts, and all of it once the
eviction is authorised. -/
structure Kept (row row' : ArchiveRow) : Prop where
  request : row'.request = row.request
  receipts : ∀ step receipt, row.receipt step = some receipt → row'.receipt step = some receipt
  authorized : row.state = .evictionAuthorized → row' = row

theorem Kept.refl (row : ArchiveRow) : row.Kept row :=
  ⟨rfl, fun _ _ h => h, fun _ => rfl⟩

theorem Kept.trans {row'' : ArchiveRow} (h : row.Kept row') (h' : row'.Kept row'') :
    row.Kept row'' := by
  refine ⟨h'.request.trans h.request, fun step receipt hr => ?_, fun ha => ?_⟩
  · exact h'.receipts step receipt (h.receipts step receipt hr)
  · have heq := h.authorized ha
    rw [h'.authorized (by rw [heq]; exact ha), heq]

end ArchiveRow

theorem Later.kept {receipt : Option ArchiveStepReceipt} (h : Later row row' receipt) :
    row.Kept row' := by
  cases h with
  | record _ _ hfresh hstate _ =>
    refine ⟨row.advance_request _ _, fun step stored hstored => ?_, fun ha => ?_⟩
    · rw [ArchiveRow.receipt_advance]
      split
      · next heq => rw [heq, hfresh] at hstored; cases hstored
      · exact hstored
    · exact absurd (hstate.symm.trans ha) (ArchiveStep.expectedState_ne _)
  | authorize hstate _ =>
    refine ⟨rfl, fun step stored hstored => ?_, fun ha => ?_⟩
    · rw [ArchiveRow.receipt_authorize]
      exact hstored
    · rw [hstate] at ha
      cases ha

/-! ## What a state says about its row

Each state but the first is reached from the one before it, so the rows of a state
have the form that one more move gives. -/

/-- A move that reaches a step's state records the receipt of that step. -/
theorem Later.of_nextState {receipt : Option ArchiveStepReceipt} (h : Later row row' receipt)
    (step : ArchiveStep) (hstate : row'.state = step.nextState) :
    ∃ r recorded, receipt = some r ∧ r.step = step ∧ row' = row.advance r recorded ∧
      r.manifestSha256 = row.request.remoteManifestSha256 ∧ row.updatedAtNs ≤ recorded ∧
      row.state = step.expectedState ∧ ArchiveStore.requireCoverage row r = .ok () := by
  cases h with
  | @record r recorded hmanifest htime _ hexpected hcover =>
    rw [ArchiveRow.advance_state] at hstate
    have hstep : r.step = step := ArchiveStep.nextState_injective hstate
    exact ⟨r, recorded, rfl, hstep, rfl, hmanifest, htime, hstep ▸ hexpected, hcover⟩
  | authorize _ _ => cases step <;> cases hstate

/-- A row in a step's state comes from a row in the state before. -/
theorem Recorded.of_nextState {events' : List ArchiveEvent} (h : Recorded row' events')
    (step : ArchiveStep) (hstate : row'.state = step.nextState) :
    ∃ row events r recorded, Recorded row events ∧ r.step = step ∧ row' = row.advance r recorded ∧
      events' = events ++ [⟨row.request.archiveId, step.nextState, some r, recorded⟩] ∧
      r.manifestSha256 = row.request.remoteManifestSha256 ∧ row.updatedAtNs ≤ recorded ∧
      row.state = step.expectedState ∧ ArchiveStore.requireCoverage row r = .ok () := by
  cases h with
  | registered request registered => cases step <;> cases hstate
  | @later row _ events _ h hlater =>
    obtain ⟨r, recorded, rfl, hstep, rfl, hmanifest, htime, hexpected, hcover⟩ :=
      hlater.of_nextState step hstate
    refine ⟨row, events, r, recorded, h, hstep, rfl, ?_, hmanifest, htime, hexpected, hcover⟩
    rw [hstate, ArchiveRow.advance_updatedAtNs]

variable {events : List ArchiveEvent}

/-- A row that is only registered has one event. -/
theorem Recorded.of_registered (h : Recorded row events) (hstate : row.state = .registered) :
    (∀ step, row.receipt step = none) ∧
      events = [⟨row.request.archiveId, .registered, none, row.updatedAtNs⟩] := by
  cases h with
  | registered request registered => exact ⟨fun step => by cases step <;> rfl, rfl⟩
  | later _ hlater =>
    cases hlater with
    | @record r _ _ _ _ _ _ =>
      rw [ArchiveRow.advance_state] at hstate
      exact absurd hstate r.step.nextState_ne.1
    | authorize _ _ => cases hstate

/-- The step that an archive waits for has no receipt yet. -/
theorem Recorded.receipt_eq_none (h : Recorded row events) {step : ArchiveStep}
    (hstate : row.state = step.expectedState) : row.receipt step = none := by
  cases step with
  | transfer => exact (h.of_registered hstate).1 _
  | localShaVerify =>
    obtain ⟨row₀, _, r, recorded, h₀, hstep, rfl, _, _, _, hstate₀, _⟩ :=
      h.of_nextState .transfer hstate
    rw [ArchiveRow.receipt_advance, hstep, if_neg (by decide)]
    exact (h₀.of_registered hstate₀).1 _
  | rehydrateVerify =>
    obtain ⟨row₁, _, r, recorded, h₁, hstep, rfl, _, _, _, hstate₁, _⟩ :=
      h.of_nextState .localShaVerify hstate
    obtain ⟨row₀, _, r₀, recorded₀, h₀, hstep₀, rfl, _, _, _, hstate₀, _⟩ :=
      h₁.of_nextState .transfer hstate₁
    rw [ArchiveRow.receipt_advance, hstep, if_neg (by decide), ArchiveRow.receipt_advance,
      hstep₀, if_neg (by decide)]
    exact (h₀.of_registered hstate₀).1 _

/-- What the authorisation of an eviction rests on: the three receipts are stored,
carry the registered manifest and cover the same files and bytes, and the events of
the archive show them recorded in order at times that do not decrease. -/
def FullyVerified (row : ArchiveRow) (events : List ArchiveEvent) : Prop :=
  ∃ transfer localSha rehydrate,
    row.receipt .transfer = some transfer ∧ row.receipt .localShaVerify = some localSha ∧
    row.receipt .rehydrateVerify = some rehydrate ∧
    transfer.step = .transfer ∧ localSha.step = .localShaVerify ∧
    rehydrate.step = .rehydrateVerify ∧
    (∀ r ∈ [transfer, localSha, rehydrate],
      r.manifestSha256 = row.request.remoteManifestSha256 ∧
      r.checkedFileCount = transfer.checkedFileCount ∧ r.checkedBytes = transfer.checkedBytes) ∧
    ∃ t₀ t₁ t₂ t₃ t₄, t₀ ≤ t₁ ∧ t₁ ≤ t₂ ∧ t₂ ≤ t₃ ∧ t₃ ≤ t₄ ∧
      row.evictionAuthorizedAtNs = some t₄ ∧
      events = [⟨row.request.archiveId, .registered, none, t₀⟩,
        ⟨row.request.archiveId, .transferred, some transfer, t₁⟩,
        ⟨row.request.archiveId, .localShaVerified, some localSha, t₂⟩,
        ⟨row.request.archiveId, .rehydrateVerified, some rehydrate, t₃⟩,
        ⟨row.request.archiveId, .evictionAuthorized, none, t₄⟩]

/-- The coverage check compares a receipt with the one of the step before. -/
theorem coverage_eq {receipt : ArchiveStepReceipt} (prior : ArchiveStepReceipt) {step : ArchiveStep}
    (hprior : receipt.step.prior = some step) (hrow : row.receipt step = some prior)
    (h : ArchiveStore.requireCoverage row receipt = .ok ()) :
    receipt.checkedFileCount = prior.checkedFileCount ∧
      receipt.checkedBytes = prior.checkedBytes := by
  simpa only [ArchiveStore.requireCoverage, hprior, hrow, require_eq_ok] using h

/-- An authorised row was fully verified. -/
theorem Recorded.fullyVerified (h : Recorded row events)
    (hstate : row.state = .evictionAuthorized) : FullyVerified row events := by
  cases h with
  | registered _ _ => cases hstate
  | later h₃ hlater =>
    cases hlater with
    | @record r _ _ _ _ _ _ =>
      rw [ArchiveRow.advance_state] at hstate
      exact absurd hstate r.step.nextState_ne.2
    | @authorize t₄ hstate₃ ht₄ =>
      -- back from the authorised row, one state at a time
      obtain ⟨row₂, _, rehydrate, t₃, h₂, hstep₃, rfl, rfl, hm₃, ht₃, hstate₂, hc₃⟩ :=
        h₃.of_nextState .rehydrateVerify hstate₃
      obtain ⟨row₁, _, localSha, t₂, h₁, hstep₂, rfl, rfl, hm₂, ht₂, hstate₁, hc₂⟩ :=
        h₂.of_nextState .localShaVerify hstate₂
      obtain ⟨row₀, _, transfer, t₁, h₀, hstep₁, rfl, rfl, hm₁, ht₁, hstate₀, -⟩ :=
        h₁.of_nextState .transfer hstate₁
      obtain ⟨-, rfl⟩ := h₀.of_registered hstate₀
      simp only [ArchiveRow.advance_request, ArchiveRow.advance_updatedAtNs] at hm₂ hm₃ ht₂ ht₃ ht₄
      have hcover₂ := coverage_eq transfer (by rw [hstep₂]; rfl)
        (by rw [ArchiveRow.receipt_advance, hstep₁]; rfl) hc₂
      have hcover₃ := coverage_eq localSha (by rw [hstep₃]; rfl)
        (by rw [ArchiveRow.receipt_advance, hstep₂]; rfl) hc₃
      refine ⟨transfer, localSha, rehydrate, ?_, ?_, ?_, hstep₁, hstep₂, hstep₃, ?_,
        row₀.updatedAtNs, t₁, t₂, t₃, t₄, ht₁, ht₂, ht₃, ht₄, rfl, ?_⟩
      · simp [ArchiveRow.receipt_advance, hstep₁, hstep₂, hstep₃]
      · simp [ArchiveRow.receipt_advance, hstep₂, hstep₃]
      · simp [ArchiveRow.receipt_advance, hstep₃]
      · simp [hm₁, hm₂, hm₃, hcover₂, hcover₃]
      · simp [ArchiveStep.nextState, ArchiveRow.authorize]

/-! ## The table -/

namespace ArchiveStore

def eventsOf (s : ArchiveStore) (archiveId : String) : List ArchiveEvent :=
  s.events.filter fun e => e.archiveId = archiveId

def TerminalCell (store : Store) (request : ArchiveRequest) : Prop :=
  ∀ key, request.cell = some key → ∃ attempt, store.requireAttempt key = .ok attempt ∧
    attempt.status ≠ .pending ∧ attempt.status ≠ .running

/-- The first part of a call: it registers an archive that is new and whose cell
has ended, or nothing. -/
def Registers (s mid : ArchiveStore) : Prop :=
  mid = s ∨ ∃ request registered, s.findArchive request.archiveId = none ∧
    TerminalCell s.store request ∧ mid = s.insert request registered

/-- The moves that follow: on the other tables, or on one archive. -/
inductive Move : ArchiveStore → ArchiveStore → Prop
  | store (s : ArchiveStore) (store : Store) : Move s { s with store := store }
  | archive {s : ArchiveStore} {archiveId : String} {row row' : ArchiveRow}
      {receipt : Option ArchiveStepReceipt} (hrow : s.findArchive archiveId = some row)
      (hlater : Later row row' receipt) : Move s (s.update row' receipt)

theorem archiveId_of_findArchive (h : s.findArchive archiveId = some row) :
    row.request.archiveId = archiveId := by
  simpa using find?_some h

theorem findArchive_insert {request : ArchiveRequest} {registered : Int}
    (hnew : s.findArchive request.archiveId = none) (archiveId : String) :
    (s.insert request registered).findArchive archiveId =
      if archiveId = request.archiveId then
        some { request := request, state := .registered, createdAtNs := registered,
               updatedAtNs := registered }
      else s.findArchive archiveId := by
  unfold findArchive insert at *
  rw [find?_append]
  split
  · next heq => rw [heq, hnew]; simp
  · next hne => simp [Ne.symm hne]

theorem eventsOf_insert (s : ArchiveStore) (request : ArchiveRequest) (registered : Int)
    (archiveId : String) : (s.insert request registered).eventsOf archiveId =
      s.eventsOf archiveId ++ if archiveId = request.archiveId then
          [⟨request.archiveId, .registered, none, registered⟩] else [] := by
  unfold eventsOf insert
  rw [filter_append]
  split
  · next heq => simp [heq]
  · next hne => simp [Ne.symm hne]

theorem findArchive_update {receipt : Option ArchiveStepReceipt}
    (hrow : s.findArchive archiveId = some row) (hrequest : row'.request = row.request)
    (other : String) : (s.update row' receipt).findArchive other =
      if other = archiveId then some row' else s.findArchive other := by
  have hid := archiveId_of_findArchive hrow
  rw [← hrequest] at hid
  unfold findArchive update at *
  rw [find?_map, hid]
  have hsame : ((fun row : ArchiveRow => decide (row.request.archiveId = other)) ∘ fun o =>
      if o.request.archiveId = archiveId then row' else o) =
      fun row => decide (row.request.archiveId = other) := by
    funext o
    by_cases ho : o.request.archiveId = archiveId
    · simp [ho, hid]
    · simp [ho]
  rw [hsame]
  split
  · next heq =>
      rw [heq, hrow, Option.map_some, if_pos (hrequest ▸ hid)]
  · next hne =>
      cases hfind : s.archives.find? fun row => decide (row.request.archiveId = other) with
      | none => rfl
      | some found =>
        have hfound : found.request.archiveId = other := by simpa using find?_some hfind
        rw [Option.map_some, if_neg (by rw [hfound]; exact hne)]

theorem eventsOf_update {receipt : Option ArchiveStepReceipt}
    (hrow : s.findArchive archiveId = some row) (hrequest : row'.request = row.request)
    (other : String) : (s.update row' receipt).eventsOf other = s.eventsOf other ++
        if other = archiveId then [⟨row.request.archiveId, row'.state, receipt, row'.updatedAtNs⟩]
        else [] := by
  have hid := archiveId_of_findArchive hrow
  unfold eventsOf update
  rw [filter_append, hrequest, hid]
  split
  · next heq => simp [heq]
  · next hne => simp [Ne.symm hne]

/-- Every archive has the events of its row, and a name without a row has none. -/
structure Histories (s : ArchiveStore) : Prop where
  recorded : ∀ archiveId row, s.findArchive archiveId = some row →
    Recorded row (s.eventsOf archiveId)
  unregistered : ∀ archiveId, s.findArchive archiveId = none → s.eventsOf archiveId = []

theorem Histories.empty : Histories ArchiveStore.empty := by
  refine ⟨fun archiveId row hrow => ?_, fun _ _ => rfl⟩
  have hnone : ArchiveStore.empty.findArchive archiveId = none := rfl
  rw [hnone] at hrow
  cases hrow

theorem Histories.registers {mid : ArchiveStore} (hs : Histories s) (h : Registers s mid) :
    Histories mid := by
  rcases h with rfl | ⟨request, registered, hnew, -, rfl⟩
  · exact hs
  · refine ⟨fun archiveId row hrow => ?_, fun archiveId hnone => ?_⟩
    · rw [findArchive_insert hnew] at hrow
      rw [eventsOf_insert]
      split at hrow
      · next heq =>
          obtain rfl := Option.some.inj hrow
          rw [heq, hs.unregistered _ hnew, if_pos rfl]
          exact .registered request registered
      · next hne =>
          rw [if_neg hne, append_nil]
          exact hs.recorded archiveId row hrow
    · rw [findArchive_insert hnew] at hnone
      split at hnone
      · cases hnone
      · next hne =>
          rw [eventsOf_insert, if_neg hne, append_nil]
          exact hs.unregistered archiveId hnone

theorem Histories.move (hs : Histories s) (h : Move s s') : Histories s' := by
  cases h with
  | store store => exact ⟨hs.recorded, hs.unregistered⟩
  | @archive archiveId row row' receipt hrow hlater =>
    have hrequest := hlater.kept.request
    refine ⟨fun other found hfound => ?_, fun other hnone => ?_⟩
    · rw [findArchive_update hrow hrequest] at hfound
      rw [eventsOf_update hrow hrequest]
      split at hfound
      · next heq =>
          obtain rfl := Option.some.inj hfound
          rw [heq, if_pos rfl]
          exact .later (hs.recorded archiveId row hrow) hlater
      · next hne =>
          rw [if_neg hne, append_nil]
          exact hs.recorded other found hfound
    · rw [findArchive_update hrow hrequest] at hnone
      split at hnone
      · cases hnone
      · next hne =>
          rw [eventsOf_update hrow hrequest, if_neg hne, append_nil]
          exact hs.unregistered other hnone

/-! ## What stays -/

/-- Every archive stays, with what its row keeps. -/
def Kept (s s' : ArchiveStore) : Prop :=
  ∀ archiveId row, s.findArchive archiveId = some row →
    ∃ row', s'.findArchive archiveId = some row' ∧ row.Kept row'

theorem Kept.refl (s : ArchiveStore) : Kept s s :=
  fun _ row h => ⟨row, h, .refl row⟩

theorem Kept.trans {s'' : ArchiveStore} (h : Kept s s') (h' : Kept s' s'') : Kept s s'' := by
  intro archiveId row hrow
  obtain ⟨row', hrow', hkept⟩ := h archiveId row hrow
  obtain ⟨row'', hrow'', hkept'⟩ := h' archiveId row' hrow'
  exact ⟨row'', hrow'', hkept.trans hkept'⟩

theorem Registers.kept {mid : ArchiveStore} (h : Registers s mid) : Kept s mid := by
  rcases h with rfl | ⟨request, registered, hnew, -, rfl⟩
  · exact .refl _
  · intro archiveId row hrow
    have hne : archiveId ≠ request.archiveId := by
      rintro rfl
      rw [hnew] at hrow
      cases hrow
    exact ⟨row, by rw [findArchive_insert hnew, if_neg hne]; exact hrow, .refl row⟩

theorem Move.kept (h : Move s s') : Kept s s' := by
  cases h with
  | store store => exact .refl s
  | @archive archiveId row row' receipt hrow hlater =>
    intro other found hfound
    rw [findArchive_update hrow hlater.kept.request]
    split
    · next heq =>
        obtain rfl : row = found := Option.some.inj (by rw [← hrow, ← heq, hfound])
        exact ⟨row', rfl, hlater.kept⟩
    · exact ⟨found, hfound, .refl found⟩

/-- A move makes no new archive. -/
theorem Move.findArchive_eq_none (h : Move s s') (hnone : s.findArchive archiveId = none) :
    s'.findArchive archiveId = none := by
  cases h with
  | store store => exact hnone
  | archive hrow hlater =>
    rw [findArchive_update hrow hlater.kept.request]
    split
    · next heq =>
        rw [heq, hrow] at hnone
        cases hnone
    · exact hnone

/-- What a call does: it registers at most one archive, then makes moves. -/
def Calls (s s' : ArchiveStore) : Prop :=
  ∃ mid, Registers s mid ∧ ReflTransGen Move mid s'

theorem Calls.refl (s : ArchiveStore) : Calls s s :=
  ⟨s, .inl rfl, .refl⟩

theorem Calls.move (h : Move s s') : Calls s s' :=
  ⟨s, .inl rfl, .single h⟩

theorem histories_of_moves (hs : Histories s) (h : ReflTransGen Move s s') : Histories s' := by
  induction h with
  | refl => exact hs
  | tail _ hmove ih => exact ih.move hmove

theorem kept_of_moves (h : ReflTransGen Move s s') : Kept s s' := by
  induction h with
  | refl => exact .refl s
  | tail _ hmove ih => exact ih.trans hmove.kept

theorem Calls.histories (h : Calls s s') (hs : Histories s) : Histories s' := by
  obtain ⟨mid, hregisters, hmoves⟩ := h
  exact histories_of_moves (hs.registers hregisters) hmoves

theorem Calls.kept (h : Calls s s') : Kept s s' := by
  obtain ⟨mid, hregisters, hmoves⟩ := h
  exact hregisters.kept.trans (kept_of_moves hmoves)

/-- The cell of an archive that a call registers had ended before the call. -/
theorem Calls.terminalCell (h : Calls s s') (hnone : s.findArchive archiveId = none)
    (hrow : s'.findArchive archiveId = some row) : TerminalCell s.store row.request := by
  obtain ⟨mid, hregisters, hmoves⟩ := h
  cases hmid : mid.findArchive archiveId with
  | none =>
    -- the moves would have had to make the archive
    exfalso
    have hstays : s'.findArchive archiveId = none := by
      clear hrow
      induction hmoves with
      | refl => exact hmid
      | tail _ hmove ih => exact hmove.findArchive_eq_none ih
    rw [hstays] at hrow
    cases hrow
  | some found =>
    obtain ⟨row', hrow', hkept⟩ := kept_of_moves hmoves archiveId found hmid
    obtain rfl : row' = row := Option.some.inj (hrow'.symm.trans hrow)
    rw [hkept.request]
    rcases hregisters with rfl | ⟨request, registered, hnew, hterminal, rfl⟩
    · rw [hnone] at hmid
      cases hmid
    · rw [findArchive_insert hnew] at hmid
      split at hmid
      · obtain rfl := Option.some.inj hmid
        exact hterminal
      · rw [hnone] at hmid
        cases hmid

/-! ## The calls -/

theorem requireArchive_eq_ok (h : s.requireArchive archiveId = .ok row) :
    s.findArchive archiveId = some row := by
  simp only [requireArchive, bind_eq_ok] at h
  obtain ⟨_, _, h⟩ := h
  split at h
  · next found => rw [found, pure_eq_ok.mp h]
  · cases h

theorem registerArchiveSafeBoundary_registers {request : ArchiveRequestSpec} {registered : Int}
    (h : s.registerArchiveSafeBoundary request registered = .ok s') : Registers s s' := by
  simp only [registerArchiveSafeBoundary, bind_eq_ok] at h
  obtain ⟨_, _, h⟩ := h
  split at h
  · simp only [bind_eq_ok, check_eq_ok, pure_eq_ok] at h
    exact .inl h.2.symm
  · next hnew =>
      refine .inr ⟨request.val, registered, hnew, ?_⟩
      split at h
      · next key hkey =>
          simp only [bind_eq_ok, check_eq_ok, pure_eq_ok] at h
          obtain ⟨attempt, hattempt, hstatus, rfl⟩ := h
          refine ⟨fun other hother => ?_, rfl⟩
          obtain rfl : key = other := Option.some.inj (hkey.symm.trans hother)
          exact ⟨attempt, hattempt, hstatus⟩
      · next hkey =>
          refine ⟨fun other hother => ?_, (pure_eq_ok.mp h).symm⟩
          rw [hkey] at hother
          cases hother

/-- A recorded step is one move, or was recorded before. -/
theorem recordArchiveStep_cases {receipt : ArchiveStepReceipt} {recorded : Int}
    (h : s.recordArchiveStep archiveId receipt recorded = .ok s') :
    ∃ row, s.findArchive archiveId = some row ∧ (row.receipt receipt.step = some receipt ∧ s' = s ∨
        Later row (row.advance receipt recorded) (some receipt) ∧
          s' = s.update (row.advance receipt recorded) (some receipt)) := by
  simp only [recordArchiveStep, bind_eq_ok, check_eq_ok] at h
  obtain ⟨_, _, _, _, row, hrow, hmanifest, htime, h⟩ := h
  refine ⟨row, requireArchive_eq_ok hrow, ?_⟩
  split at h
  · next stored hstored =>
      simp only [bind_eq_ok, check_eq_ok, pure_eq_ok] at h
      obtain ⟨rfl, rfl⟩ := h
      exact .inl ⟨hstored, rfl⟩
  · next hfresh =>
      simp only [bind_eq_ok, check_eq_ok, pure_eq_ok] at h
      obtain ⟨hstate, _, hcover, rfl⟩ := h
      exact .inr ⟨.record hmanifest htime hfresh hstate hcover, rfl⟩

/-- The eviction is authorised, and this is the value that a call returns for it. -/
def AuthorizedAs (s : ArchiveStore) (result : RemoteEvictionAuthorization) : Prop :=
  ∃ row stored, s.findArchive result.archiveId = some row ∧ row.state = .evictionAuthorized ∧
    row.evictionAuthorizedAtNs = some stored ∧ authorization row stored = .ok result

theorem AuthorizedAs.kept (h : AuthorizedAs s result) (hkept : Kept s s') :
    AuthorizedAs s' result := by
  obtain ⟨row, stored, hrow, hstate, hstored, hresult⟩ := h
  obtain ⟨row', hrow', hrest⟩ := hkept _ row hrow
  obtain rfl := hrest.authorized hstate
  exact ⟨row', stored, hrow', hstate, hstored, hresult⟩

/-- An archive has one authorisation. -/
theorem AuthorizedAs.unique {result' : RemoteEvictionAuthorization} (h : AuthorizedAs s result)
    (h' : AuthorizedAs s result') (hid : result'.archiveId = result.archiveId) :
    result' = result := by
  obtain ⟨row, stored, hrow, -, hstored, hresult⟩ := h
  obtain ⟨row', stored', hrow', -, hstored', hresult'⟩ := h'
  rw [hid, hrow] at hrow'
  obtain rfl := Option.some.inj hrow'
  rw [hstored] at hstored'
  obtain rfl := Option.some.inj hstored'
  rw [hresult] at hresult'
  exact (Except.ok.inj hresult').symm

theorem authorization_archiveId {authorized : Int} (h : authorization row authorized = .ok result) :
    result.archiveId = row.request.archiveId := by
  unfold authorization at h
  split at h
  · split at h
    · rw [← pure_eq_ok.mp h]
    · cases h
  · cases h

/-- An authorisation is one move, or was made before; it is read off the row. -/
theorem authorizeRemoteEviction_spec {authorized : Int}
    (h : s.authorizeRemoteEviction archiveId authorized = .ok (result, s')) :
    ReflTransGen Move s s' ∧ AuthorizedAs s' result := by
  simp only [authorizeRemoteEviction, bind_eq_ok] at h
  obtain ⟨_, _, _, _, row, hrow, h⟩ := h
  have hfind := requireArchive_eq_ok hrow
  obtain rfl := archiveId_of_findArchive hfind
  split at h
  · next hstate =>
      split at h
      · next stored hstored =>
          simp only [bind_eq_ok, pure_eq_ok, Prod.mk.injEq] at h
          obtain ⟨_, hresult, rfl, rfl⟩ := h
          refine ⟨.refl, row, stored, ?_, hstate, hstored, hresult⟩
          rw [authorization_archiveId hresult, hfind]
      · cases h
  · simp only [bind_eq_ok, check_eq_ok, pure_eq_ok, Prod.mk.injEq] at h
    obtain ⟨hstate, htime, _, hresult, rfl, rfl⟩ := h
    have hlater : Later row (row.authorize authorized) none := .authorize hstate htime
    refine ⟨.single (.archive hfind hlater), row.authorize authorized, authorized, ?_, rfl, rfl,
      hresult⟩
    rw [findArchive_update hfind hlater.kept.request, authorization_archiveId hresult, if_pos rfl]

/-! ## The loop of a run -/

theorem stepOf_eq_some {state : ArchiveState} {step : ArchiveStep} (h : stepOf state = some step) :
    state = step.expectedState := by
  cases state <;> cases h <;> rfl

/-- A step that succeeds moves the archive into the next state, with its receipt. -/
theorem performStep_spec {request : ArchiveRequest} {callbacks : ArchiveCallbacks}
    {clock : ArchiveTick → Int} {step : ArchiveStep} (hs : Histories s)
    (hrow : s.findArchive request.archiveId = some row) (hstep : stepOf row.state = some step)
    (h : s.performStep request callbacks clock step row.previousReceipt = .ok s') :
    Move s s' ∧ ∃ row', s'.findArchive request.archiveId = some row' ∧
      row'.state = step.nextState ∧ row'.receipt step ≠ none := by
  unfold performStep at h
  split at h
  · cases h
  · cases h
  · next value _ =>
      simp only [bind_eq_ok, check_eq_ok] at h
      obtain ⟨rfl, h⟩ := h
      obtain ⟨found, hfound, hcases⟩ := recordArchiveStep_cases h
      obtain rfl : row = found := Option.some.inj (hrow.symm.trans hfound)
      have hfresh := (hs.recorded _ row hrow).receipt_eq_none (stepOf_eq_some hstep)
      rcases hcases with ⟨hstored, -⟩ | ⟨hlater, rfl⟩
      · rw [hfresh] at hstored
        cases hstored
      · refine ⟨.archive hrow hlater, row.advance value (clock (.step value.step)), ?_,
          row.advance_state _ _, ?_⟩
        · rw [findArchive_update hrow hlater.kept.request, if_pos rfl]
        · rw [ArchiveRow.receipt_advance, if_pos rfl]
          exact Option.some_ne_none value

theorem stepFailed_spec (s : ArchiveStore) (request : ArchiveRequest) (clock : ArchiveTick → Int)
    (error : Error) (invoked : List ArchiveStep) :
    ReflTransGen Move s (s.stepFailed request clock error invoked).2 ∧
      (s.stepFailed request clock error invoked).1.invoked = invoked ∧
      ∀ result, (s.stepFailed request clock error invoked).1.result ≠ .ok result := by
  unfold stepFailed
  split
  · next store _ => exact ⟨.single (.store s store), rfl, fun _ h => by cases h⟩
  · exact ⟨.refl, rfl, fun _ h => by cases h⟩

/-- The steps of a list are distinct and none of them has a receipt yet. -/
def Unrecorded (s : ArchiveStore) (archiveId : String) (steps : List ArchiveStep) : Prop :=
  steps.Nodup ∧ ∀ row, s.findArchive archiveId = some row → ∀ step ∈ steps, row.receipt step = none

/-- A step without a receipt had none before. -/
theorem Unrecorded.of_kept (hkept : Kept s s') {steps : List ArchiveStep}
    (h : s'.Unrecorded archiveId steps) : s.Unrecorded archiveId steps := by
  refine ⟨h.1, fun row hrow step hstep => ?_⟩
  obtain ⟨row', hrow', hrest⟩ := hkept archiveId row hrow
  cases hreceipt : row.receipt step with
  | none => rfl
  | some receipt =>
    have hnone := h.2 row' hrow' step hstep
    rw [hrest.receipts step receipt hreceipt] at hnone
    cases hnone

/-- What a loop does: it moves, it invokes callbacks of steps without a receipt,
each once, and what it returns is the authorisation. -/
structure Runs (s : ArchiveStore) (archiveId : String) (invoked : List ArchiveStep)
    (out : ArchiveResult × ArchiveStore) : Prop where
  moves : ReflTransGen Move s out.2
  fresh : ∃ more, out.1.invoked = invoked ++ more ∧ s.Unrecorded archiveId more
  result : ∀ result, out.1.result = .ok (some result) → AuthorizedAs out.2 result

theorem Unrecorded.nil (s : ArchiveStore) (archiveId : String) : s.Unrecorded archiveId [] :=
  ⟨nodup_nil, by simp⟩

theorem runs_error (s : ArchiveStore) (archiveId : String) (invoked : List ArchiveStep)
    (error : Error) : Runs s archiveId invoked (⟨.error error, invoked⟩, s) :=
  ⟨.refl, ⟨[], by simp, .nil s archiveId⟩, fun _ h => by cases h⟩

theorem archiveLoop_runs (request : ArchiveRequest) (callbacks : ArchiveCallbacks)
    (clock : ArchiveTick → Int) (turns : Nat) (invoked : List ArchiveStep) (s : ArchiveStore)
    (hs : Histories s) : Runs s request.archiveId invoked
      (archiveLoop request callbacks clock turns invoked s) := by
  induction turns generalizing invoked s with
  | zero => exact runs_error s _ invoked _
  | succ turns ih =>
    unfold archiveLoop
    split
    · exact runs_error s _ invoked _
    · next row hrow =>
      have hfind := requireArchive_eq_ok hrow
      split
      · -- the archive is verified
        split
        · next result s' h =>
            obtain ⟨hmoves, hresult⟩ := authorizeRemoteEviction_spec h
            refine ⟨hmoves, ⟨[], by simp, .nil s _⟩, fun r hr => ?_⟩
            obtain rfl : result = r := by simpa using hr
            exact hresult
        · exact runs_error s _ invoked _
      · next step hstep =>
        have hfresh := (hs.recorded _ row hfind).receipt_eq_none (stepOf_eq_some hstep)
        split
        · -- the step succeeds; the rest of the loop does not repeat it
          next s' h =>
          obtain ⟨hmove, row', hfind', -, hreceipt⟩ := performStep_spec hs hfind hstep h
          obtain ⟨hmoves, ⟨more, hinvoked, hrest⟩, hresult⟩ :=
            ih (invoked ++ [step]) s' (hs.move hmove)
          refine ⟨.head hmove hmoves, ⟨step :: more, by simp [hinvoked], ?_, ?_⟩, hresult⟩
          · refine nodup_cons.mpr ⟨fun hmem => ?_, hrest.1⟩
            exact hreceipt (hrest.2 row' hfind' step hmem)
          · intro found hfound other hother
            rcases mem_cons.mp hother with rfl | hother
            · obtain rfl : row = found := Option.some.inj (hfind.symm.trans hfound)
              exact hfresh
            · exact (Unrecorded.of_kept hmove.kept hrest).2 found hfound other hother
        · next e h =>
          obtain ⟨hmoves, hinvoked, herror⟩ :=
            stepFailed_spec s request clock e (invoked ++ [step])
          refine ⟨hmoves, ⟨[step], hinvoked, nodup_singleton step, ?_⟩, ?_⟩
          · intro found hfound other hother
            obtain rfl : other = step := by simpa using hother
            obtain rfl : row = found := Option.some.inj (hfind.symm.trans hfound)
            exact hfresh
          · intro result hresult
            exact absurd hresult (herror _)

/-! ## Runs of calls -/

/-- A call registers and moves, and a value that it returns is the authorisation. -/
theorem step_spec (hs : Histories s) (op : ArchiveOp) : Calls s (s.step op).2 ∧
      ∀ result, (s.step op).1.result = .ok (some result) → AuthorizedAs (s.step op).2 result := by
  cases op with
  | store op =>
    simp only [step]
    split
    · next store _ => exact ⟨.move (.store s store), fun _ h => by cases h⟩
    · exact ⟨.refl s, fun _ h => by cases h⟩
  | register request registered =>
    simp only [step]
    split
    · next s' h => exact ⟨⟨s', registerArchiveSafeBoundary_registers h, .refl⟩, fun _ h => by cases h⟩
    · exact ⟨.refl s, fun _ h => by cases h⟩
  | record archiveId receipt recorded =>
    simp only [step]
    split
    · next s' h =>
        refine ⟨?_, fun _ h => by cases h⟩
        obtain ⟨row, hrow, ⟨-, rfl⟩ | ⟨hlater, rfl⟩⟩ := recordArchiveStep_cases h
        · exact .refl s'
        · exact .move (.archive hrow hlater)
    · exact ⟨.refl s, fun _ h => by cases h⟩
  | authorize archiveId authorized =>
    simp only [step]
    split
    · next value s' h =>
        obtain ⟨hmoves, hvalue⟩ := authorizeRemoteEviction_spec h
        refine ⟨⟨s, .inl rfl, hmoves⟩, fun result hresult => ?_⟩
        obtain rfl : value = result := by simpa using hresult
        exact hvalue
    · exact ⟨.refl s, fun _ h => by cases h⟩
  | run request callbacks clock =>
    simp only [step, runArchiveCallbacks]
    split
    · next s' h =>
        have hregisters := registerArchiveSafeBoundary_registers h
        have hruns := archiveLoop_runs request.val callbacks clock 4 [] s'
          (hs.registers hregisters)
        exact ⟨⟨s', hregisters, hruns.moves⟩, hruns.result⟩
    · exact ⟨.refl s, fun _ h => by cases h⟩

/-- A run invokes the callbacks of steps that are not recorded, each once. -/
theorem run_unrecorded (hs : Histories s) (request : ArchiveRequestSpec)
    (callbacks : ArchiveCallbacks) (clock : ArchiveTick → Int) :
    s.Unrecorded request.val.archiveId (s.step (.run request callbacks clock)).1.invoked := by
  simp only [step, runArchiveCallbacks]
  split
  · next s' h =>
      have hregisters := registerArchiveSafeBoundary_registers h
      obtain ⟨more, hinvoked, hmore⟩ := (archiveLoop_runs request.val callbacks clock 4 [] s'
        (hs.registers hregisters)).fresh
      rw [hinvoked, nil_append]
      exact hmore.of_kept hregisters.kept
  · exact .nil s _

theorem histories_trace (ops : List ArchiveOp) :
    (∀ ev ∈ trace step empty ops, Histories ev.pre ∧ Histories ev.post) ∧
      Histories (final step empty ops) := by
  have hstep : ∀ s op, Histories s → True → Histories (step s op).2 :=
    fun s op hs _ => (step_spec hs op).1.histories hs
  exact trace_invariant hstep Histories.empty fun _ _ => trivial

theorem kept_final (hs : Histories s) (ops : List ArchiveOp) : Kept s (final step s ops) := by
  induction ops generalizing s with
  | nil => exact .refl s
  | cons op ops ih =>
    have hcalls := (step_spec hs op).1
    exact hcalls.kept.trans (ih (hcalls.histories hs))

/-- A value that a call of the run returned is the authorisation at its end. -/
theorem authorizedAs_final (hs : Histories s) (ops : List ArchiveOp)
    {ev : Event ArchiveStore ArchiveOp ArchiveResult} (hev : ev ∈ trace step s ops)
    (hresult : ev.output.result = .ok (some result)) : AuthorizedAs (final step s ops) result := by
  induction ops generalizing s with
  | nil => cases hev
  | cons op ops ih =>
    obtain ⟨hcalls, hreturns⟩ := step_spec hs op
    have hs' := hcalls.histories hs
    rcases mem_cons.mp hev with rfl | hev
    · exact (hreturns result hresult).kept (kept_final hs' ops)
    · exact ih hs' hev

/-- An archive of a run was registered by one of its calls, when its cell had ended. -/
theorem registered_at (hs : Histories s) (ops : List ArchiveOp)
    (hnone : s.findArchive archiveId = none)
    (hrow : (final step s ops).findArchive archiveId = some row) :
    ∃ ev ∈ trace step s ops, ev.pre.findArchive archiveId = none ∧
      (∃ first, ev.post.findArchive archiveId = some first ∧ first.request = row.request) ∧
      TerminalCell ev.pre.store row.request := by
  induction ops generalizing s with
  | nil =>
    rw [final_nil, hnone] at hrow
    cases hrow
  | cons op ops ih =>
    have hcalls := (step_spec hs op).1
    have hs' := hcalls.histories hs
    cases hpost : (step s op).2.findArchive archiveId with
    | none =>
      obtain ⟨ev, hev, h⟩ := ih hs' hpost hrow
      exact ⟨ev, mem_cons_of_mem _ hev, h⟩
    | some first =>
      -- this call registered the archive, and its request stays
      obtain ⟨row', hrow', hkept⟩ := kept_final hs' ops archiveId first hpost
      obtain rfl : row' = row := Option.some.inj (hrow'.symm.trans hrow)
      refine ⟨event step s op, mem_cons_self, hnone, ⟨first, hpost, ?_⟩, ?_⟩
      · exact hkept.request.symm
      · rw [hkept.request]
        exact hcalls.terminalCell hnone hpost

/-- Over any sequence of calls, with any receipts and callbacks: an authorised
archive was fully verified, and its cell had ended when it was registered; stored
receipts and returned authorisations stay; and a run of the callbacks invokes none
whose step is recorded. -/
theorem eviction_only_after_verification (ops : List ArchiveOp) :
    (∀ archiveId row, (final step empty ops).findArchive archiveId = some row →
      row.state = .evictionAuthorized →
        FullyVerified row ((final step empty ops).eventsOf archiveId) ∧
        ∃ ev ∈ trace step empty ops, ev.pre.findArchive archiveId = none ∧
          (∃ first, ev.post.findArchive archiveId = some first ∧
            first.request = row.request) ∧
          TerminalCell ev.pre.store row.request) ∧
    (∀ more, Kept (final step empty ops) (final step empty (ops ++ more))) ∧
    (∀ ev ∈ trace step empty ops, ∀ result, ev.output.result = .ok (some result) →
      AuthorizedAs (final step empty ops) result ∧
      ∀ ev' ∈ trace step empty ops, ∀ result', ev'.output.result = .ok (some result') →
        result'.archiveId = result.archiveId → result' = result) ∧
    (∀ ev ∈ trace step empty ops, ∀ request callbacks clock,
      ev.input = .run request callbacks clock →
        ev.pre.Unrecorded request.val.archiveId ev.output.invoked) := by
  have hfinal := (histories_trace ops).2
  refine ⟨fun archiveId row hrow hstate => ⟨?_, ?_⟩, fun more => ?_, fun ev hev result hresult =>
    ⟨?_, fun ev' hev' result' hresult' hid => ?_⟩, fun ev hev request callbacks clock hinput => ?_⟩
  · exact (hfinal.recorded archiveId row hrow).fullyVerified hstate
  · exact registered_at Histories.empty ops rfl hrow
  · rw [final_append]
    exact kept_final hfinal more
  · exact authorizedAs_final Histories.empty ops hev hresult
  · exact (authorizedAs_final Histories.empty ops hev hresult).unique
      (authorizedAs_final Histories.empty ops hev' hresult') hid
  · have hpre := ((histories_trace ops).1 ev hev).1
    rw [eq_event_of_mem_trace hev, hinput]
    exact run_unrecorded hpre request callbacks clock

/-! A run whose second callback fails, and the run that resumes it. -/

namespace Sample

def request : ArchiveRequestSpec where
  val := { archiveId := "archive", safeBoundary := "stage end", remotePayloadRoot := "/remote",
           localPartialRoot := "/partial", localFinalRoot := "/final",
           remoteManifestSha256 := .hex "m" }
  property := by decide +kernel

def receipt (step : ArchiveStep) : ArchiveStepReceipt where
  step := step
  manifestSha256 := .hex "m"
  evidenceSha256 := .hex step.text
  checkedFileCount := 3
  checkedBytes := 70
  contentTreeSha256 := if step = .rehydrateVerify then some (.hex "tree") else none
  count_pos := by decide
  content_iff := by cases step <;> decide

def clock (start : Int) : ArchiveTick → Int
  | .register => start
  | .step .transfer => start + 1
  | .step .localShaVerify => start + 2
  | .step .rehydrateVerify => start + 3
  | .failure => start + 4
  | .authorize => start + 5

def resumed : List ArchiveOp :=
  [.run request (fun step _ _ => if step = .transfer then .receipt (receipt step)
      else .raises (runtimeError "no space left")) (clock 1),
   .run request (fun step _ _ => .receipt (receipt step)) (clock 10)]

end Sample

/-- The resumed run invokes the two callbacks that are left, and the authorisation
rests on all three receipts. -/
theorem eviction_only_after_verification_resumed :
    (trace step empty Sample.resumed).map (fun ev => ev.output.invoked) =
        [[.transfer, .localShaVerify], [.localShaVerify, .rehydrateVerify]] ∧
      ∃ row, (final step empty Sample.resumed).findArchive "archive" = some row ∧
        row.state = .evictionAuthorized ∧
        FullyVerified row ((final step empty Sample.resumed).eventsOf "archive") := by
  refine ⟨by decide +kernel, ?_⟩
  cases hrow : (final step empty Sample.resumed).findArchive "archive" with
  | none => exact absurd hrow (by decide +kernel)
  | some row =>
      have hstate : ∀ found ∈ (final step empty Sample.resumed).findArchive "archive",
          found.state = .evictionAuthorized := by decide +kernel
      refine ⟨row, rfl, hstate row hrow, ?_⟩
      exact ((eviction_only_after_verification Sample.resumed).1 "archive" row hrow
        (hstate row hrow)).1

end ArchiveStore

end Operator
