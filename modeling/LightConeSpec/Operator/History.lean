import LightConeSpec.Operator.Ledger
import LightConeSpec.Lib.Machine

/-!
# The history of a cell's attempts

The attempts of one cell form a history: the only active attempt is the last
one, the scientific axes never change, a retry of a failed attempt keeps its
identity, and nothing follows a complete attempt. The invariant is kept by
every change of the ledger except an unrestricted legacy import, which inserts
rows of any number without looking at the rows around them.
-/

namespace Operator

open Python Machine List

/-- `PENDING` or `RUNNING`. -/
def AttemptStatus.isActive : AttemptStatus → Bool
  | .pending | .running => true
  | _ => false

/-- `FAILED` or `BLOCKED`: the statuses whose retry must keep its identity. -/
def AttemptStatus.isFailure : AttemptStatus → Bool
  | .failed | .blocked => true
  | _ => false

/-- The two attempts agree on stage, phase, block, seed and scientific axes. -/
def SameAxes (a b : CellAttempt) : Prop :=
  a.stage = b.stage ∧ a.phase = b.phase ∧ a.block = b.block ∧ a.seed = b.seed ∧
    a.scientificAxes = b.scientificAxes

/-- The two attempts agree on identity and scientific command digest. -/
def SameScience (a b : CellAttempt) : Prop :=
  a.identity = b.identity ∧ a.scientificCommandSha256 = b.scientificCommandSha256

/-- Attempt number `n` of the cell comes right after `r`: no attempt of the
cell in `rows` has a number between them. -/
def PrecededBy (rows : List AttemptRow) (r : AttemptRow) (cellId : String) (n : Nat) : Prop :=
  r.cellId = cellId ∧ r.attempt < n ∧
    ∀ r' ∈ rows, r'.cellId = cellId → r'.attempt ≤ r.attempt ∨ n ≤ r'.attempt

/-- What the claim says about the attempt table. -/
structure AttemptHistory (rows : List AttemptRow) : Prop where
  one_active : ∀ r ∈ rows, ∀ r' ∈ rows, r.cellId = r'.cellId → r.status.isActive = true →
    r'.status.isActive = true → r = r'
  active_latest : ∀ r ∈ rows, ∀ r' ∈ rows, r'.cellId = r.cellId → r.status.isActive = true →
    r'.attempt ≤ r.attempt
  same_axes : ∀ r ∈ rows, ∀ r' ∈ rows, r.cellId = r'.cellId → SameAxes r.spec r'.spec
  retry_science : ∀ r ∈ rows, ∀ r' ∈ rows, PrecededBy rows r r'.cellId r'.attempt →
    r.status.isFailure = true → SameScience r.spec r'.spec
  complete_last : ∀ r ∈ rows, ∀ r' ∈ rows, r'.cellId = r.cellId → r.status = .complete →
    r'.attempt ≤ r.attempt

instance (a b : CellAttempt) : Decidable (SameAxes a b) :=
  inferInstanceAs (Decidable (_ ∧ _))

instance (a b : CellAttempt) : Decidable (SameScience a b) :=
  inferInstanceAs (Decidable (_ ∧ _))

instance (rows : List AttemptRow) (r : AttemptRow) (cellId : String) (n : Nat) :
    Decidable (PrecededBy rows r cellId n) :=
  inferInstanceAs (Decidable (_ ∧ _))

/-- The inductive invariant: distinct keys carry `one_active`. -/
structure HistoryInvariant (rows : List AttemptRow) : Prop where
  keys : (rows.map (·.key)).Nodup
  active_latest : ∀ r ∈ rows, ∀ r' ∈ rows, r'.cellId = r.cellId → r.status.isActive = true →
    r'.attempt ≤ r.attempt
  same_axes : ∀ r ∈ rows, ∀ r' ∈ rows, r.cellId = r'.cellId → SameAxes r.spec r'.spec
  retry_science : ∀ r ∈ rows, ∀ r' ∈ rows, PrecededBy rows r r'.cellId r'.attempt →
    r.status.isFailure = true → SameScience r.spec r'.spec
  complete_last : ∀ r ∈ rows, ∀ r' ∈ rows, r'.cellId = r.cellId → r.status = .complete →
    r'.attempt ≤ r.attempt

variable {rows : List AttemptRow}

theorem HistoryInvariant.attemptHistory (h : HistoryInvariant rows) : AttemptHistory rows where
  one_active := by
    intro r hr r' hr' hcell hactive hactive'
    have hle := h.active_latest r hr r' hr' hcell.symm hactive
    have hge := h.active_latest r' hr' r hr hcell hactive'
    have hkey : r.key = r'.key := by
      simp [AttemptRow.key, hcell, le_antisymm hge hle]
    exact inj_on_of_nodup_map h.keys hr hr' hkey
  active_latest := h.active_latest
  same_axes := h.same_axes
  retry_science := h.retry_science
  complete_last := h.complete_last

theorem HistoryInvariant.nil : HistoryInvariant [] :=
  ⟨nodup_nil, by simp, by simp, by simp, by simp⟩

/-! ## Updates of rows -/

/-- A status change along the life cycle of an attempt. -/
structure Advances (old new : AttemptStatus) : Prop where
  active : new.isActive = true → old.isActive = true
  complete : new = .complete → old = .complete ∨ old.isActive = true
  failure : new.isFailure = true → old.isFailure = true ∨ old.isActive = true

theorem Advances.refl (status : AttemptStatus) : Advances status status :=
  ⟨id, .inl, .inl⟩

theorem Store.RowChange.advances {kind : Store.ChangeKind} {r r' : AttemptRow}
    (h : Store.RowChange r r' kind) : Advances r.status r'.status := by
  cases kind with
  | observe =>
    rw [h.1]
    exact Advances.refl _
  | start =>
    obtain ⟨hpending, hrunning, _⟩ := h
    rw [hpending, hrunning]
    exact ⟨fun _ => rfl, by simp, by simp [AttemptStatus.isFailure]⟩
  | finish =>
    obtain ⟨hactive, _, _, _⟩ := h
    have hold : r.status.isActive = true := by
      rcases hactive with hstatus | hstatus <;> rw [hstatus] <;> rfl
    exact ⟨fun _ => hold, fun _ => .inr hold, fun _ => .inr hold⟩
  | stale =>
    obtain ⟨_, hstale, _⟩ := h
    rw [hstale]
    exact ⟨by simp [AttemptStatus.isActive], by simp, by simp [AttemptStatus.isFailure]⟩
  | adopt =>
    obtain ⟨hpending, hcomplete⟩ := h
    rw [hpending, hcomplete]
    exact ⟨by simp [AttemptStatus.isActive], fun _ => .inr rfl,
      by simp [AttemptStatus.isFailure]⟩
  | materialize | legacy | enqueue | group | settings | auxStart | dispatch | envelope =>
    exact h.elim

/-- Row updates that keep the inserted columns and advance the status keep the
invariant. -/
theorem HistoryInvariant.map {rows : List AttemptRow} (h : HistoryInvariant rows)
    {g : AttemptRow → AttemptRow} (hspec : ∀ r, (g r).spec = r.spec)
    (hadvance : ∀ r ∈ rows, Advances r.status (g r).status) : HistoryInvariant (rows.map g) := by
  have hcell : ∀ r, (g r).cellId = r.cellId := fun r => congrArg CellAttempt.cellId (hspec r)
  have hattempt : ∀ r, (g r).attempt = r.attempt := fun r => congrArg CellAttempt.attempt (hspec r)
  have hprec : ∀ r r', PrecededBy (rows.map g) (g r) (g r').cellId (g r').attempt →
      PrecededBy rows r r'.cellId r'.attempt := by
    rintro r r' ⟨hc, hlt, hbetween⟩
    rw [hcell, hcell] at hc
    rw [hattempt, hattempt] at hlt
    refine ⟨hc, hlt, fun r₂ hr₂ hc₂ => ?_⟩
    have hb := hbetween (g r₂) (mem_map_of_mem hr₂) (by rw [hcell, hcell, hc₂])
    simpa [hattempt] using hb
  constructor
  · have hkeys : (rows.map g).map (·.key) = rows.map (·.key) := by
      simp only [map_map]
      exact map_congr_left fun r _ => AttemptRow.key_eq_of_spec (hspec r)
    rw [hkeys]
    exact h.keys
  · simp only [forall_mem_map, hcell, hattempt]
    intro r hr r' hr' hc hactive
    exact h.active_latest r hr r' hr' hc ((hadvance r hr).active hactive)
  · simp only [forall_mem_map, hcell, hspec]
    exact h.same_axes
  · simp only [forall_mem_map, hspec]
    intro r hr r' hr' hfollows hfailure
    have hold := hprec r r' hfollows
    rcases (hadvance r hr).failure hfailure with hfailure | hactive
    · exact h.retry_science r hr r' hr' hold hfailure
    · -- an active row is the last one, so nothing follows it
      have hle := h.active_latest r hr r' hr' hold.1.symm hactive
      have hlt := hold.2.1
      omega
  · simp only [forall_mem_map, hcell, hattempt]
    intro r hr r' hr' hc hcomplete
    rcases (hadvance r hr).complete hcomplete with hcomplete | hactive
    · exact h.complete_last r hr r' hr' hc hcomplete
    · exact h.active_latest r hr r' hr' hc hactive

/-! ## Insertions -/

/-- What an inserted row must satisfy. It is neither complete nor failed. -/
structure Extends (rows : List AttemptRow) (row : AttemptRow) : Prop where
  fresh : ∀ r ∈ rows, r.key ≠ row.key
  active : row.status.isActive = true → ∀ r ∈ rows, r.cellId = row.cellId →
    r.attempt ≤ row.attempt
  below : ∀ r ∈ rows, r.cellId = row.cellId → r.attempt < row.attempt →
    r.status.isActive = false ∧ r.status ≠ .complete
  same_axes : ∀ r ∈ rows, r.cellId = row.cellId → SameAxes r.spec row.spec
  science : ∀ r ∈ rows, PrecededBy rows r row.cellId row.attempt → r.status.isFailure = true →
    SameScience r.spec row.spec
  not_complete : row.status ≠ .complete
  not_failure : row.status.isFailure = false

theorem SameAxes.symm {a b : CellAttempt} (h : SameAxes a b) : SameAxes b a := by
  obtain ⟨h₁, h₂, h₃, h₄, h₅⟩ := h
  exact ⟨h₁.symm, h₂.symm, h₃.symm, h₄.symm, h₅.symm⟩

variable {row : AttemptRow}

theorem PrecededBy.of_append {r : AttemptRow} {cellId : String} {n : Nat}
    (h : PrecededBy (rows ++ [row]) r cellId n) : PrecededBy rows r cellId n :=
  ⟨h.1, h.2.1, fun r' hr' => h.2.2 r' (mem_append_left _ hr')⟩

/-- A row that extends the history keeps the invariant. -/
theorem HistoryInvariant.append (h : HistoryInvariant rows) (hrow : Extends rows row) :
    HistoryInvariant (rows ++ [row]) := by
  constructor
  · rw [map_append, nodup_append]
    refine ⟨h.keys, by simp, ?_⟩
    intro key hkey key' hkey'
    obtain ⟨r, hr, rfl⟩ := mem_map.mp hkey
    have hlast : key' = row.key := by simpa using hkey'
    rw [hlast]
    exact hrow.fresh r hr
  · intro r hr r' hr' hc hactive
    rcases mem_append.mp hr with hr | hr <;> rcases mem_append.mp hr' with hr' | hr'
    · exact h.active_latest r hr r' hr' hc hactive
    · rw [mem_singleton.mp hr'] at hc ⊢
      by_contra hlt
      have hbelow := (hrow.below r hr hc.symm (by omega)).1
      rw [hactive] at hbelow
      cases hbelow
    · rw [mem_singleton.mp hr] at hc hactive ⊢
      exact hrow.active hactive r' hr' hc
    · rw [mem_singleton.mp hr, mem_singleton.mp hr']
  · intro r hr r' hr' hc
    rcases mem_append.mp hr with hr | hr <;> rcases mem_append.mp hr' with hr' | hr'
    · exact h.same_axes r hr r' hr' hc
    · rw [mem_singleton.mp hr'] at hc ⊢
      exact hrow.same_axes r hr hc
    · rw [mem_singleton.mp hr] at hc ⊢
      exact (hrow.same_axes r' hr' hc.symm).symm
    · rw [mem_singleton.mp hr, mem_singleton.mp hr']
      exact ⟨rfl, rfl, rfl, rfl, rfl⟩
  · intro r hr r' hr' hprec hfailure
    rcases mem_append.mp hr with hr | hr
    · rcases mem_append.mp hr' with hr' | hr'
      · exact h.retry_science r hr r' hr' hprec.of_append hfailure
      · rw [mem_singleton.mp hr'] at hprec ⊢
        exact hrow.science r hr hprec.of_append hfailure
    · rw [mem_singleton.mp hr, hrow.not_failure] at hfailure
      cases hfailure
  · intro r hr r' hr' hc hcomplete
    rcases mem_append.mp hr with hr | hr
    · rcases mem_append.mp hr' with hr' | hr'
      · exact h.complete_last r hr r' hr' hc hcomplete
      · rw [mem_singleton.mp hr'] at hc ⊢
        by_contra hlt
        exact (hrow.below r hr hc.symm (by omega)).2 hcomplete
    · rw [mem_singleton.mp hr] at hcomplete
      exact absurd hcomplete hrow.not_complete

/-- A materialised attempt extends the history of its cell. -/
theorem Store.Materializes.extends (h : Store.Materializes rows row)
    (hrows : HistoryInvariant rows) : Extends rows row := by
  rcases h.next with ⟨_, hfirst⟩ | ⟨latest, hmem, hcell, hmax, hattempt, hstatus, haxes, hscience⟩
  · -- the first attempt of its cell
    refine ⟨fun r hr => (h.fresh r hr).1, ?_, ?_, ?_, ?_, by simp [h.pending],
      by simp [h.pending, AttemptStatus.isFailure]⟩
    · intro _ r hr hc
      exact absurd hc (hfirst r hr)
    · intro r hr hc
      exact absurd hc (hfirst r hr)
    · intro r hr hc
      exact absurd hc (hfirst r hr)
    · intro r hr hprec
      exact absurd hprec.1 (hfirst r hr)
  · -- the attempt after `latest`
    have hactive : latest.status.isActive = false ∧ latest.status ≠ .complete := by
      rcases hstatus with hs | hs | hs <;> simp [hs, AttemptStatus.isActive]
    refine ⟨fun r hr => (h.fresh r hr).1, ?_, ?_, ?_, ?_, by simp [h.pending],
      by simp [h.pending, AttemptStatus.isFailure]⟩
    · intro _ r hr hc
      have := hmax r hr hc
      omega
    · intro r hr hc _
      constructor
      · cases hr_active : r.status.isActive with
        | false => rfl
        | true =>
          -- an active row would be the latest one
          have hle := hrows.active_latest r hr latest hmem (hcell.trans hc.symm) hr_active
          have hge := hmax r hr hc
          have hkey : r.key = latest.key := by
            simp [AttemptRow.key, hc, hcell, le_antisymm hge hle]
          rw [inj_on_of_nodup_map hrows.keys hr hmem hkey] at hr_active
          exact hr_active.symm.trans hactive.1
      · intro hcomplete
        have hle := hrows.complete_last r hr latest hmem (hcell.trans hc.symm) hcomplete
        have hge := hmax r hr hc
        have hkey : r.key = latest.key := by
          simp [AttemptRow.key, hc, hcell, le_antisymm hge hle]
        rw [inj_on_of_nodup_map hrows.keys hr hmem hkey] at hcomplete
        exact hactive.2 hcomplete
    · intro r hr hc
      have hlatest := hrows.same_axes r hr latest hmem (hc.trans hcell.symm)
      obtain ⟨a₁, a₂, a₃, a₄, a₅⟩ := hlatest
      obtain ⟨b₁, b₂, b₃, b₄, b₅⟩ := haxes
      exact ⟨a₁.trans b₁, a₂.trans b₂, a₃.trans b₃, a₄.trans b₄, a₅.trans b₅⟩
    · intro r hr hprec hfailure
      -- the row right before is `latest` itself
      have hge := hmax r hr hprec.1
      have hbetween := hprec.2.2 latest hmem hcell
      have hkey : r.key = latest.key := by
        simp only [AttemptRow.key, hprec.1, hcell, AttemptKey.mk.injEq, true_and]
        omega
      rw [inj_on_of_nodup_map hrows.keys hr hmem hkey] at hfailure ⊢
      refine hscience ?_
      cases hl : latest.status <;> simp [hl, AttemptStatus.isFailure] at hfailure ⊢

/-! ## Legacy imports -/

/-- The condition under which an imported row fits the rows of its cell; none of
it is checked by the import. -/
structure LegacyCompatible (rows : List AttemptRow) (a : CellAttempt) : Prop where
  same_axes : ∀ r ∈ rows, r.cellId = a.cellId → SameAxes r.spec a
  below : ∀ r ∈ rows, r.cellId = a.cellId → r.attempt < a.attempt →
    r.status.isActive = false ∧ r.status ≠ .complete
  science : ∀ r ∈ rows, PrecededBy rows r a.cellId a.attempt → r.status.isFailure = true →
    SameScience r.spec a

/-- Every item of a batch fits the stored rows and the items before it. -/
def LegacyBatch (now : Int) : List AttemptRow → List LegacyStaleAttempt → Prop
  | _, [] => True
  | rows, item :: rest => LegacyCompatible rows item.spec.val ∧
      LegacyBatch now (rows ++ [AttemptRow.ofLegacy item now]) rest

/-- Legacy imports fit the table they are applied to. -/
def ImportsFit (s : Store) : StoreOp → Prop
  | .importLegacyStaleAttempts items now => LegacyBatch now s.attempts items
  | _ => True

instance (rows : List AttemptRow) (a : CellAttempt) : Decidable (LegacyCompatible rows a) :=
  decidable_of_iff
    ((∀ r ∈ rows, r.cellId = a.cellId → SameAxes r.spec a) ∧
      (∀ r ∈ rows, r.cellId = a.cellId → r.attempt < a.attempt →
        r.status.isActive = false ∧ r.status ≠ .complete) ∧
      ∀ r ∈ rows, PrecededBy rows r a.cellId a.attempt → r.status.isFailure = true →
        SameScience r.spec a)
    ⟨fun h => ⟨h.1, h.2.1, h.2.2⟩, fun h => ⟨h.same_axes, h.below, h.science⟩⟩

theorem LegacyCompatible.extends {item : LegacyStaleAttempt} {now : Int}
    (h : LegacyCompatible rows item.spec.val)
    (hfresh : ∀ r ∈ rows, r.key ≠ (AttemptRow.ofLegacy item now).key) :
    Extends rows (AttemptRow.ofLegacy item now) where
  fresh := hfresh
  active := by
    -- an imported row is STALE_IDENTITY
    intro hactive
    cases hactive
  below := h.below
  same_axes := h.same_axes
  science := h.science
  not_complete := by simp [AttemptRow.ofLegacy]
  not_failure := rfl

theorem Store.importLegacyLoop_history {now : Int} {items : List LegacyStaleAttempt}
    {s s' : Store} (h : s.importLegacyLoop now items = .ok s')
    (hbatch : LegacyBatch now s.attempts items) (hs : HistoryInvariant s.attempts) :
    HistoryInvariant s'.attempts := by
  induction items generalizing s with
  | nil =>
    cases h
    exact hs
  | cons item rest ih =>
    obtain ⟨-, hfresh, h⟩ := importLegacyLoop_cons h
    obtain ⟨hitem, hrest⟩ := hbatch
    exact ih h hrest (hs.append (hitem.extends hfresh))

/-! ## Every run -/

/-- No elementary change breaks the history, legacy rows apart. -/
theorem Store.Change.history {kind : Store.ChangeKind} {s t : Store}
    (h : Store.Change kind s t) (hkind : kind ≠ .legacy) (hs : HistoryInvariant s.attempts) :
    HistoryInvariant t.attempts := by
  cases h with
  | rows keys f hspec hrow =>
    refine hs.map ?_ ?_
    · intro r
      split
      · exact (hspec r).spec
      · rfl
    · intro r hr
      split
      · rename_i hkey
        exact (hrow r hr hkey).advances
      · exact Advances.refl _
  | materialize row hrow => exact hs.append (hrow.extends hs)
  | legacy => exact absurd rfl hkind
  | settings hledger _ =>
    rw [hledger.attempts]
    exact hs
  | auxStart hledger _ _ =>
    rw [hledger.attempts]
    exact hs
  | dispatch hledger _ _ =>
    rw [hledger.attempts]
    exact hs
  | envelope hledger _ _ =>
    rw [hledger.attempts]
    exact hs
  | enqueue | insertGroup | insertMember | groupStart | groupFinish => exact hs

/-- One call, failed or not, keeps the history. -/
theorem Store.step_history {s : Store} {op : StoreOp} (hs : HistoryInvariant s.attempts)
    (hfit : (s.step op).1 = .ok () → ImportsFit s op) :
    HistoryInvariant (s.step op).2.attempts := by
  by_cases hlegacy : Store.ChangeKind.legacy ∈ op.kinds
  · -- only the legacy import inserts legacy rows
    cases op with
    | importLegacyStaleAttempts items now =>
      cases happly : s.apply (.importLegacyStaleAttempts items now) with
      | error e =>
        unfold Store.step
        rw [happly]
        exact hs
      | ok s' =>
        have hstep := Store.step_of_ok happly
        rw [hstep] at hfit ⊢
        simp only [Store.apply, Store.importLegacyStaleAttempts, bind_eq_ok, check_eq_ok] at happly
        obtain ⟨_, _, _, _, hloop⟩ := happly
        exact Store.importLegacyLoop_history hloop (hfit rfl) hs
    | _ => simp [StoreOp.kinds] at hlegacy
  · have hchanges := Store.step_changes (s := s) hs.keys op
    refine hchanges.invariant (P := fun t => HistoryInvariant t.attempts) ?_ hs
    intro kind hkind t u hchange ht
    exact hchange.history (fun heq => hlegacy (heq ▸ hkind)) ht

/-- In every run of calls from an empty database whose accepted legacy imports fit, the
attempts of each cell form a history after each call. -/
theorem attempt_history_of_imports_fit (ops : List StoreOp)
    (hfit : ∀ e ∈ trace Store.step Store.empty ops,
      e.output = .ok () → ImportsFit e.pre e.input) :
    (∀ e ∈ trace Store.step Store.empty ops, AttemptHistory e.post.attempts) ∧
      AttemptHistory (final Store.step Store.empty ops).attempts := by
  have hstep : ∀ (s : Store) (op : StoreOp), HistoryInvariant s.attempts →
      ((s.step op).1 = .ok () → ImportsFit s op) → HistoryInvariant (s.step op).2.attempts :=
    fun s op hs hop => Store.step_history hs hop
  have hrun := trace_invariant hstep HistoryInvariant.nil (forall_output hfit)
  exact ⟨fun e he => (hrun.1 e he).2.attemptHistory, hrun.2.attemptHistory⟩

/-- Attempt `n` of the only cell of a one-node plan. -/
def sampleAttempt (n : Nat) (directory : String) : CellAttempt where
  cellId := "cell"
  attempt := n
  stage := "smoke"
  phase := "final"
  block := none
  seed := none
  scientificAxes := "\x7b\"tp\":1\x7d"
  identity := ⟨.hex "e0", .hex "e1", .hex "e2", "\x7b\x7d"⟩
  commandSha256 := .hex "c0"
  outputDirectory := directory

theorem sampleAttempt_checks : requireAll (sampleAttempt 1 "/runs/1").checks = .ok () := by
  decide

/-- The second attempt of the cell as an old run recorded it. -/
def sampleLegacy : LegacyStaleAttempt where
  spec := ⟨sampleAttempt 2 "/runs/2", by decide⟩
  originalStatus := "FAILED"
  exclusionReason := "legacy"
  startedAtNs := none
  finishedAtNs := none
  original_text := by decide
  exclusion_text := by decide
  started_pos := by simp
  finished_pos := by simp
  finished_after := by simp

/-- The plan of one node and the first attempt of its cell. -/
def sampleSetup : List StoreOp :=
  [.initializeStagePlan [⟨"node", 0, "smoke", "final", "1", none⟩] 1,
   .materializeAttempt ⟨sampleAttempt 1 "/runs/1", sampleAttempt_checks⟩ 2]

/-- The first attempt goes stale before an old second attempt is imported, and
the rerun is the third. -/
theorem attempt_history_of_stale_import :
    AttemptHistory (final Store.step Store.empty (sampleSetup ++
      [.markStaleIdentity ⟨"cell", 1⟩ "drift" "RERUN" 3,
       .importLegacyStaleAttempts [sampleLegacy] 4,
       .materializeAttempt ⟨sampleAttempt 3 "/runs/3", by decide⟩ 5])).attempts := by
  refine (attempt_history_of_imports_fit _ ?_).2
  simp only [sampleSetup, List.cons_append, List.nil_append, trace_cons, trace_nil,
    List.forall_mem_cons, event, ImportsFit, LegacyBatch, true_and, and_true, List.not_mem_nil,
    false_implies, implies_true]
  decide

/-- An import above a `PENDING` attempt makes the next attempt of the cell a
second `PENDING` one. -/
theorem attempt_history_fails_after_import :
    ¬ ∀ ops, AttemptHistory (final Store.step Store.empty ops).attempts := by
  intro h
  have hbad := (h (sampleSetup ++ [.importLegacyStaleAttempts [sampleLegacy] 3,
    .materializeAttempt ⟨sampleAttempt 3 "/runs/3", by decide⟩ 4])).one_active
  revert hbad
  decide

end Operator
