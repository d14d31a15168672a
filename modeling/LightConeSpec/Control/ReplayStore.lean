import LightConeSpec.Lib.Python

/-!
# The challenge replay store

A control artifact is signed over a challenge, under a deployment policy that is
signed over a challenge of its own. `ChallengeReplayStore` keeps the challenges
that have been used: one immutable file for each decision, whose name is the
digest of its content.

`verifyControlArtifact` checks one envelope against the consumed challenges, and
`decideReservation` is the critical section of a call up to its write: what the
files hold, all verifications, and the reservation that is to be written.

The signature checks are parameters (`Verifier`), and so are the digest
functions. What does not depend on the time or on the store is checked when a
record is built, and is left out.
-/

namespace Control

open Python List

variable {D : Type} [LinearOrder D]

/-! ## Envelopes -/

/-- `AttestationChallenge`, with the interval check of its `validate`. -/
structure AttestationChallenge (D : Type) where
  challengeId : String
  nonceBase64 : String
  subjectSha256 : D
  issuedNs : ℤ
  expiresNs : ℤ
  nonnegative : 0 ≤ issuedNs
  ordered : issuedNs < expiresNs
deriving DecidableEq

def AttestationChallenge.validate (c : AttestationChallenge D) (nowNs : ℤ) : Except Error Unit :=
  require (nowNs ≤ c.expiresNs) (valueError "attestation challenge expired")

/-- What verification reads of a `TrustedAttesterPolicyBundle` and of its nonce
policy. -/
structure TrustedAttesterPolicyBundle (D : Type) where
  sha256 : D
  trustedAttesterPolicySha256 : D
  validFromNs : ℤ
  expiresNs : ℤ
  hardwareEnvelopeSha256Allowlist : List D
  minimumLifetimeNs : ℤ
  maximumLifetimeNs : ℤ
  maximumClockSkewNs : ℤ
deriving DecidableEq

def TrustedAttesterPolicyBundle.validate (b : TrustedAttesterPolicyBundle D) (nowNs : ℤ) :
    Except Error Unit := do
  require (0 ≤ nowNs) (valueError "trusted-attester validation time must be non-negative")
  require (b.validFromNs ≤ nowNs) (valueError "trusted-attester bundle is not yet valid")
  require (nowNs ≤ b.expiresNs) (valueError "trusted-attester bundle expired")

structure DeploymentPolicyAuthorization (D : Type) where
  rootManifestSha256 : D
  inventorySha256 : D
  bundle : TrustedAttesterPolicyBundle D
  challenge : AttestationChallenge D
  signatureBase64 : String
deriving DecidableEq

/-- `ControlArtifactAttestation`; the first two fields are those of its
subject. -/
structure ControlArtifactAttestation (D : Type) where
  artifactType : String
  artifactSha256 : D
  hardwareEnvelopeSha256 : D
  trustAnchorSha256 : D
  trustBundleSha256 : D
  trustedAttesterPolicySha256 : D
  deploymentPolicyAuthorization : DeploymentPolicyAuthorization D
  challenge : AttestationChallenge D
  attestation : String
deriving DecidableEq

structure VerifiedControlArtifact (D : Type) where
  artifactType : String
  artifactSha256 : D
  envelopeSha256 : D
  challengeSha256 : D
  deploymentPolicyChallengeSha256 : D
  deploymentPolicyAuthorizationSha256 : D
  trustBundleSha256 : D
  trustedAttesterPolicySha256 : D

/-- The content of a reservation file. -/
structure Reservation (D : Type) where
  reservedNs : ℤ
  challengeSha256s : List D
deriving DecidableEq

/-- The digests of the records. -/
structure ControlSha (D : Type) where
  challenge : AttestationChallenge D → D
  authorization : DeploymentPolicyAuthorization D → D
  envelope : ControlArtifactAttestation D → D
  reservation : Reservation D → D

/-- What the release's public keys say: the root binding (its manifest digest and
its own), the root signature of a deployment policy, and the attester's signature
of an envelope at a time. -/
structure Verifier (D : Type) where
  rootBinding : Except Error (D × D)
  rootSignature : DeploymentPolicyAuthorization D → Except Error Unit
  verifyRelease : ControlArtifactAttestation D → ℤ → Except Error Unit

section

variable (sha : ControlSha D) (verifier : Verifier D)

/-- `verify_source_signed_deployment_policy`; returns the digest of the root
binding. -/
def verifyDeploymentPolicy (authorization : DeploymentPolicyAuthorization D)
    (expectedInventorySha256 : D) (nowNs : ℤ) (consumed : List D) : Except Error D := do
  require (0 ≤ nowNs) (valueError "deployment verification time must be non-negative")
  require consumed.Nodup
    (valueError "deployment replay snapshot contains duplicate digests")
  let root ← verifier.rootBinding
  require (authorization.rootManifestSha256 = root.1 ∧
      authorization.inventorySha256 = expectedInventorySha256)
    (valueError "deployment policy differs from source root or inventory")
  let challenge := authorization.challenge
  challenge.validate nowNs
  require (1000000000 ≤ challenge.expiresNs - challenge.issuedNs ∧
      challenge.expiresNs - challenge.issuedNs ≤ 600000000000)
    (valueError "deployment policy challenge lifetime violates release bounds")
  require (challenge.issuedNs ≤ nowNs + 30000000000)
    (valueError "deployment policy challenge was issued too far in the future")
  require (sha.challenge challenge ∉ consumed)
    (valueError "deployment policy challenge was already consumed")
  verifier.rootSignature authorization
  authorization.bundle.validate nowNs
  pure root.2

def validateChallenge (bundle : TrustedAttesterPolicyBundle D) (challenge : AttestationChallenge D)
    (nowNs : ℤ) (consumed : List D) : Except Error D := do
  bundle.validate nowNs
  require consumed.Nodup (valueError "consumed challenge identities must be unique")
  challenge.validate nowNs
  require (bundle.minimumLifetimeNs ≤ challenge.expiresNs - challenge.issuedNs ∧
      challenge.expiresNs - challenge.issuedNs ≤ bundle.maximumLifetimeNs)
    (valueError "attestation challenge lifetime violates policy")
  require (challenge.issuedNs ≤ nowNs + bundle.maximumClockSkewNs)
    (valueError "attestation challenge was issued too far in the future")
  require (sha.challenge challenge ∉ consumed)
    (valueError "attestation challenge nonce was already consumed")
  pure (sha.challenge challenge)

/-- `except RuntimeError` around the verification of the deployment policy. -/
def blockRuntimeError {α : Type} : Except Error α → Except Error α
  | .ok value => .ok value
  | .error e =>
    if e.kind = .runtimeError then
      .error (runtimeError
        "release control attestation is BLOCKED: source_release_trust_root_unavailable")
    else .error e

/-- `verify_release_control_artifact_attestation`. -/
def verifyControlArtifact (envelope : ControlArtifactAttestation D) (expectedInventorySha256 : D)
    (nowNs : ℤ) (consumed : List D) : Except Error (VerifiedControlArtifact D) := do
  let authorization := envelope.deploymentPolicyAuthorization
  let rootSha256 ← blockRuntimeError
    (verifyDeploymentPolicy sha verifier authorization expectedInventorySha256 nowNs consumed)
  let bundle := authorization.bundle
  require (envelope.trustAnchorSha256 = rootSha256 ∧ envelope.trustBundleSha256 = bundle.sha256 ∧
      envelope.trustedAttesterPolicySha256 = bundle.trustedAttesterPolicySha256)
    (valueError "control attestation uses another release trust root")
  require (envelope.hardwareEnvelopeSha256 ∈ bundle.hardwareEnvelopeSha256Allowlist)
    (valueError "hardware envelope is not allowlisted by the trust bundle")
  require (bundle.hardwareEnvelopeSha256Allowlist = [envelope.hardwareEnvelopeSha256])
    (valueError "deployment policy must name exactly the observed hardware envelope")
  let challengeSha256 ← validateChallenge sha bundle envelope.challenge nowNs consumed
  require (challengeSha256 ≠ sha.challenge authorization.challenge)
    (valueError "deployment and artifact challenges must be distinct")
  verifier.verifyRelease envelope nowNs
  pure {
    artifactType := envelope.artifactType
    artifactSha256 := envelope.artifactSha256
    envelopeSha256 := sha.envelope envelope
    challengeSha256 := challengeSha256
    deploymentPolicyChallengeSha256 := sha.challenge authorization.challenge
    deploymentPolicyAuthorizationSha256 := sha.authorization authorization
    trustBundleSha256 := bundle.sha256
    trustedAttesterPolicySha256 := bundle.trustedAttesterPolicySha256 }

/-! ## Reservation files -/

def maximumFormalAtomicChallenges : ℕ := 2 * 360 + 48

def maximumChallengeReservationBytes : ℕ := 64 * 1024

/-- The length of the canonical bytes: 66 for each quoted digest, a comma between
two, and 108 for the rest but the time. -/
def Reservation.sizeBytes (r : Reservation D) : ℕ :=
  66 * r.challengeSha256s.length + (r.challengeSha256s.length - 1) + 108
    + (toString r.reservedNs).length

inductive EntryName (D : Type)
  | reservation (sha256 : D)
  | unknown (name : String)
deriving DecidableEq

/-- A file of the store: its name, and the reservation whose canonical bytes it
holds, or why reading it as one fails. -/
structure StoreFile (D : Type) where
  name : EntryName D
  content : Except Error (Reservation D)

def readReservation (file : StoreFile D) : Except Error (Reservation D) :=
  match file.name with
  | .unknown _ => .error (valueError "challenge replay store contains an unknown entry")
  | .reservation name => do
      let record ← file.content
      require (record.sizeBytes ≤ maximumChallengeReservationBytes)
        (valueError "challenge reservation is not one bounded file")
      require (1 ≤ record.reservedNs) (valueError "challenge reservation time is invalid")
      require (record.challengeSha256s ≠ [] ∧
          record.challengeSha256s.length ≤ maximumFormalAtomicChallenges ∧
          record.challengeSha256s = sortedSet record.challengeSha256s)
        (valueError "challenge reservation digests are not canonical")
      require (name = sha.reservation record)
        (valueError "challenge reservation bytes or name are not canonical")
      pure record

def StoreFile.records (file : StoreFile D) (challenge : D) : Bool :=
  match file.content with
  | .ok record => challenge ∈ record.challengeSha256s
  | .error _ => false

/-! ## Calls -/

/-- The arguments of `_locked_verify_and_reserve`. -/
structure Batch (D : Type) where
  envelopes : List (ControlArtifactAttestation D)
  expectedInventorySha256 : D
  nowNs : ℤ
  additionalChallengeSha256s : List D
deriving DecidableEq

/-- The two public calls. -/
inductive StoreCall (D : Type)
  | verifyAndReserve (batch : Batch D)
  | reserveContent (challengeSha256s : List D) (reservedNs : ℤ)

/-- The first check of `_locked_verify_and_reserve`. -/
def Batch.checkBound (batch : Batch D) : Except Error (Batch D) := do
  require (2 * batch.envelopes.length + batch.additionalChallengeSha256s.length
      ≤ maximumFormalAtomicChallenges)
    (valueError "formal atomic challenge batch exceeds source bound")
  pure batch

/-- The checks that a public call makes before it opens the directory, and the
batch it passes on. -/
def StoreCall.enter (zeroSha256 : D) : StoreCall D → Except Error (Batch D)
  | .verifyAndReserve batch => do
      require (batch.envelopes ≠ [])
        (typeError "control verification batch requires exact envelopes")
      require batch.additionalChallengeSha256s.Nodup
        (valueError "additional challenges must be unique")
      batch.checkBound
  | .reserveContent challengeSha256s reservedNs => do
      require (challengeSha256s ≠ [] ∧ challengeSha256s = sortedSet challengeSha256s)
        (valueError "content challenge reservation is not canonical")
      require (1 ≤ reservedNs) (valueError "content challenge reservation time is invalid")
      Batch.checkBound ⟨[], zeroSha256, reservedNs, challengeSha256s⟩

/-- `_locked_verify_and_reserve` between the lock and the write: the results, and
the reservation to write. -/
def decideReservation (batch : Batch D) (files : List (StoreFile D)) :
    Except Error (List (VerifiedControlArtifact D) × Reservation D) := do
  let records ← collect (files.map (readReservation sha))
  let consumed := records.flatMap (·.challengeSha256s)
  require consumed.Nodup (valueError "challenge replay store contains duplicate claims")
  require (∀ challenge ∈ batch.additionalChallengeSha256s, challenge ∉ consumed)
    (valueError "additional challenge is already consumed")
  let results ← collect (batch.envelopes.map fun envelope =>
    verifyControlArtifact sha verifier envelope batch.expectedInventorySha256 batch.nowNs consumed)
  let artifactChallenges := results.map (·.challengeSha256)
  require artifactChallenges.Nodup
    (valueError "control artifacts reuse one artifact challenge")
  require (∀ row ∈ results, ∀ prior ∈ results,
      row.deploymentPolicyChallengeSha256 = prior.deploymentPolicyChallengeSha256 →
        row.deploymentPolicyAuthorizationSha256 = prior.deploymentPolicyAuthorizationSha256)
    (valueError "one deployment challenge names different authorizations")
  let deploymentChallenges := (results.map (·.deploymentPolicyChallengeSha256)).dedup
  require (∀ challenge ∈ artifactChallenges, challenge ∉ deploymentChallenges)
    (valueError "artifact and deployment challenges overlap")
  require (∀ challenge ∈ batch.additionalChallengeSha256s,
      challenge ∉ artifactChallenges ++ deploymentChallenges)
    (valueError "additional and control challenges overlap")
  let reservation : Reservation D :=
    ⟨batch.nowNs, sortedBy id
      (artifactChallenges ++ deploymentChallenges ++ batch.additionalChallengeSha256s)⟩
  require (reservation.challengeSha256s.length ≤ maximumFormalAtomicChallenges)
    (valueError "formal atomic challenge batch exceeds source bound")
  require (reservation.sizeBytes ≤ maximumChallengeReservationBytes)
    (valueError "challenge reservation exceeds the bounded record size")
  pure (results, reservation)

end

/-! ## What a decision says -/

section

variable {sha : ControlSha D} {verifier : Verifier D} {zeroSha256 : D} {batch : Batch D}
  {files : List (StoreFile D)} {results : List (VerifiedControlArtifact D)}
  {reservation : Reservation D}

/-- All challenges that a batch uses: of its artifacts, of their deployment
policies, and the additional ones. -/
def layers (sha : ControlSha D) (batch : Batch D) : List D :=
  batch.envelopes.map (fun envelope => sha.challenge envelope.challenge)
    ++ batch.envelopes.map (fun envelope =>
      sha.challenge envelope.deploymentPolicyAuthorization.challenge)
    ++ batch.additionalChallengeSha256s

theorem verifyControlArtifact_eq_ok {envelope : ControlArtifactAttestation D} {inventory : D}
    {nowNs : ℤ} {consumed : List D} {row : VerifiedControlArtifact D}
    (h : verifyControlArtifact sha verifier envelope inventory nowNs consumed = .ok row) :
    row.challengeSha256 = sha.challenge envelope.challenge ∧ row.deploymentPolicyChallengeSha256
        = sha.challenge envelope.deploymentPolicyAuthorization.challenge ∧
      row.challengeSha256 ∉ consumed ∧ row.deploymentPolicyChallengeSha256 ∉ consumed ∧
      0 ≤ nowNs := by
  simp only [verifyControlArtifact, bind_eq_ok, check_eq_ok, pure_eq_ok] at h
  obtain ⟨root, hdeployment, -, -, -, challenge, hchallenge, -, ⟨⟩, -, rfl⟩ := h
  have hdeployment : verifyDeploymentPolicy sha verifier envelope.deploymentPolicyAuthorization
      inventory nowNs consumed = .ok root := by
    unfold blockRuntimeError at hdeployment
    split at hdeployment
    · rename_i value hvalue
      rw [hvalue, Except.ok.inj hdeployment]
    · split at hdeployment <;> cases hdeployment
  simp only [verifyDeploymentPolicy, bind_eq_ok, check_eq_ok] at hdeployment
  simp only [validateChallenge, bind_eq_ok, check_eq_ok, pure_eq_ok] at hchallenge
  obtain ⟨hnow, -, -, -, -, ⟨⟩, -, -, -, hfresh, -⟩ := hdeployment
  obtain ⟨⟨⟩, -, -, ⟨⟩, -, -, -, hunused, rfl⟩ := hchallenge
  exact ⟨rfl, rfl, hunused, hfresh, hnow⟩

theorem readReservation_eq_ok {file : StoreFile D} {record : Reservation D} :
    readReservation sha file = .ok record ↔
      file = ⟨.reservation (sha.reservation record), .ok record⟩ ∧
        record.sizeBytes ≤ maximumChallengeReservationBytes ∧ 1 ≤ record.reservedNs ∧
        record.challengeSha256s ≠ [] ∧
        record.challengeSha256s.length ≤ maximumFormalAtomicChallenges ∧
        record.challengeSha256s = sortedSet record.challengeSha256s := by
  obtain ⟨name, content⟩ := file
  unfold readReservation
  cases name with
  | unknown name => simp
  | reservation name =>
    simp only [bind_eq_ok, check_eq_ok, pure_eq_ok, StoreFile.mk.injEq, EntryName.reservation.injEq]
    constructor
    · rintro ⟨found, hcontent, hsize, htime, ⟨hne, hlength, hsorted⟩, hname, rfl⟩
      exact ⟨⟨hname, hcontent⟩, hsize, htime, hne, hlength, hsorted⟩
    · rintro ⟨⟨hname, hcontent⟩, hsize, htime, hne, hlength, hsorted⟩
      exact ⟨record, hcontent, hsize, htime, ⟨hne, hlength, hsorted⟩, hname, rfl⟩

/-- What a successful decision says. -/
structure Decides (sha : ControlSha D) (batch : Batch D) (files : List (StoreFile D))
    (reservation : Reservation D) : Prop where
  time : reservation.reservedNs = batch.nowNs
  nonnegative : 0 ≤ batch.nowNs
  mem : ∀ c, c ∈ reservation.challengeSha256s ↔ c ∈ layers sha batch
  nonempty : reservation.challengeSha256s ≠ []
  canonical : reservation.challengeSha256s = sortedSet reservation.challengeSha256s
  length : reservation.challengeSha256s.length ≤ maximumFormalAtomicChallenges
  size : reservation.sizeBytes ≤ maximumChallengeReservationBytes
  /-- No file records a challenge of the batch. -/
  fresh : ∀ c ∈ reservation.challengeSha256s, ∀ file ∈ files, file.records c = false

/-- What the checks of a public call say of its batch. -/
theorem enter_eq_ok {call : StoreCall D} (h : call.enter zeroSha256 = .ok batch) :
    batch.additionalChallengeSha256s.Nodup ∧
      (batch.envelopes ≠ [] ∨ batch.additionalChallengeSha256s ≠ [] ∧ 1 ≤ batch.nowNs) := by
  cases call with
  | verifyAndReserve batch' =>
    simp only [StoreCall.enter, Batch.checkBound, bind_eq_ok, check_eq_ok, pure_eq_ok] at h
    obtain ⟨henvelopes, hnodup, -, rfl⟩ := h
    exact ⟨hnodup, .inl henvelopes⟩
  | reserveContent challenges reservedNs =>
    simp only [StoreCall.enter, Batch.checkBound, bind_eq_ok, check_eq_ok, pure_eq_ok] at h
    obtain ⟨⟨hne, hsorted⟩, htime, -, rfl⟩ := h
    refine ⟨?_, .inr ⟨hne, htime⟩⟩
    have hnd := nodup_sortedSet challenges
    rw [← hsorted] at hnd
    exact hnd

omit [LinearOrder D] in
theorem forall_collect {α β : Type} {f : α → Except Error β} {xs : List α} {ys : List β}
    (h : collect (xs.map f) = .ok ys) :
    (∀ x ∈ xs, ∃ y ∈ ys, f x = .ok y) ∧ ∀ y ∈ ys, ∃ x ∈ xs, f x = .ok y := by
  have hmap := collect_eq_ok.mp h
  constructor
  · intro x hx
    have hmem : f x ∈ ys.map Except.ok := by
      rw [← hmap]
      exact mem_map.mpr ⟨x, hx, rfl⟩
    obtain ⟨y, hy, heq⟩ := mem_map.mp hmem
    exact ⟨y, hy, heq.symm⟩
  · intro y hy
    have hmem : Except.ok y ∈ xs.map f := by
      rw [hmap]
      exact mem_map.mpr ⟨y, hy, rfl⟩
    obtain ⟨x, hx, heq⟩ := mem_map.mp hmem
    exact ⟨x, hx, heq⟩

theorem decides {call : StoreCall D} (henter : call.enter zeroSha256 = .ok batch)
    (h : decideReservation sha verifier batch files = .ok (results, reservation)) :
    Decides sha batch files reservation := by
  obtain ⟨hadditional, hlayers⟩ := enter_eq_ok henter
  simp only [decideReservation, bind_eq_ok, check_eq_ok, pure_eq_ok, Prod.mk.injEq] at h
  obtain ⟨records, hrecords, -, hunused, found, hresults, hartifacts, -, hapart, hother, hlength,
    hsize, rfl, rfl⟩ := h
  obtain ⟨hread, -⟩ := forall_collect hrecords
  obtain ⟨hverified, hrows⟩ := forall_collect hresults
  -- the challenges of the rows are those of the envelopes
  have hmem : ∀ c, c ∈ sortedBy id (found.map (·.challengeSha256)
      ++ (found.map (·.deploymentPolicyChallengeSha256)).dedup
      ++ batch.additionalChallengeSha256s) ↔ c ∈ layers sha batch := by
    intro c
    simp only [mem_sortedBy, layers, mem_append, mem_map, mem_dedup]
    constructor
    · rintro ((⟨row, hrow, rfl⟩ | ⟨row, hrow, rfl⟩) | hc)
      · obtain ⟨envelope, henvelope, hok⟩ := hrows row hrow
        exact .inl (.inl ⟨envelope, henvelope, (verifyControlArtifact_eq_ok hok).1.symm⟩)
      · obtain ⟨envelope, henvelope, hok⟩ := hrows row hrow
        exact .inl (.inr ⟨envelope, henvelope, (verifyControlArtifact_eq_ok hok).2.1.symm⟩)
      · exact .inr hc
    · rintro ((⟨envelope, henvelope, rfl⟩ | ⟨envelope, henvelope, rfl⟩) | hc)
      · obtain ⟨row, hrow, hok⟩ := hverified envelope henvelope
        exact .inl (.inl ⟨row, hrow, (verifyControlArtifact_eq_ok hok).1⟩)
      · obtain ⟨row, hrow, hok⟩ := hverified envelope henvelope
        exact .inl (.inr ⟨row, hrow, (verifyControlArtifact_eq_ok hok).2.1⟩)
      · exact .inr hc
  have hnodup : (found.map (·.challengeSha256)
      ++ (found.map (·.deploymentPolicyChallengeSha256)).dedup
      ++ batch.additionalChallengeSha256s).Nodup := by
    refine nodup_append'.mpr ⟨nodup_append'.mpr ⟨hartifacts, nodup_dedup _, ?_⟩,
      hadditional, ?_⟩
    · exact fun c hc hd => hapart c hc hd
    · exact fun c hc hd => hother c hd hc
  have hsorted : sortedBy id (found.map (·.challengeSha256)
      ++ (found.map (·.deploymentPolicyChallengeSha256)).dedup
      ++ batch.additionalChallengeSha256s)
      = sortedSet (found.map (·.challengeSha256)
        ++ (found.map (·.deploymentPolicyChallengeSha256)).dedup
        ++ batch.additionalChallengeSha256s) := by
    unfold sortedSet
    rw [dedup_eq_self.mpr hnodup]
    rfl
  refine ⟨rfl, ?_, hmem, ?_, ?_, hlength, hsize, ?_⟩
  · rcases hlayers with hne | ⟨-, htime⟩
    · obtain ⟨envelope, henvelope⟩ := exists_mem_of_ne_nil _ hne
      obtain ⟨row, -, hok⟩ := hverified envelope henvelope
      exact (verifyControlArtifact_eq_ok hok).2.2.2.2
    · exact le_trans Int.one_nonneg htime
  · have hexists : ∃ c, c ∈ layers sha batch := by
      rcases hlayers with hne | ⟨hne, -⟩
      · obtain ⟨envelope, henvelope⟩ := exists_mem_of_ne_nil _ hne
        exact ⟨_, mem_append_left _ (mem_append_left _
          (mem_map.mpr ⟨envelope, henvelope, rfl⟩))⟩
      · obtain ⟨c, hc⟩ := exists_mem_of_ne_nil _ hne
        exact ⟨c, mem_append_right _ hc⟩
    obtain ⟨c, hc⟩ := hexists
    exact ne_nil_of_mem ((hmem c).mpr hc)
  · dsimp only
    rw [hsorted, sortedSet_idem]
  · intro c hc file hfile
    obtain ⟨record, hrecord, hok⟩ := hread file hfile
    obtain ⟨hfile', -⟩ := readReservation_eq_ok.mp hok
    have hconsumed : c ∉ records.flatMap (·.challengeSha256s) := by
      simp only [mem_sortedBy, mem_append, mem_map, mem_dedup] at hc
      rcases hc with (⟨row, hrow, rfl⟩ | ⟨row, hrow, rfl⟩) | hc
      · obtain ⟨envelope, -, hok⟩ := hrows row hrow
        exact (verifyControlArtifact_eq_ok hok).2.2.1
      · obtain ⟨envelope, -, hok⟩ := hrows row hrow
        exact (verifyControlArtifact_eq_ok hok).2.2.2.1
      · exact hunused c hc
    rw [hfile']
    refine decide_eq_false fun hmem => hconsumed ?_
    exact mem_flatMap.mpr ⟨record, hrecord, hmem⟩

end

end Control
