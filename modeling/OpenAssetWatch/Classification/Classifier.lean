import OpenAssetWatch.Classification.Signals

namespace OpenAssetWatch.Classification

open Library OpenAssetWatch.Text
open Temporal (float)

section Selection

/-- What a source says of one kind by one method. -/
def evidenceKey (item : ClassificationEvidence) : List Char × List Char × List Char :=
  (item.sourceKey, normalizedText 64 item.collectionMethod.toList, normalizedText 80 item.kind.toList)

def isFuture (now : Time) (item : ClassificationEvidence) : Bool := now + maxFutureEvidenceSkew < evidenceTimestamp item

def laterThan (item previous : ClassificationEvidence) : Bool := evidenceTimestamp previous < evidenceTimestamp item

def strengthPriority : EvidenceStrength → Nat
  | .direct => 2
  | .medium => 1
  | .weak => 0

/-- What evidence is ranked by, the greatest first. -/
def evidenceRank (item : ClassificationEvidence) : Bool ×ₗ Nat ×ₗ ℚ ×ₗ Time ×ₗ List Char :=
  toLex (item.direct, toLex (strengthPriority item.strength, toLex (finiteConfidence item.sourceConfidence,
    toLex (evidenceTimestamp item, item.evidenceId.toList))))

/-- The loop over the ranked evidence, with room for so many items. -/
def keepBounded (perSource : Dict (List Char) Nat) : Nat → List ClassificationEvidence → List ClassificationEvidence
  | 0, _ => []
  | _ + 1, [] => []
  | room + 1, item :: rest =>
    let count := (perSource.get? item.sourceKey).getD 0
    if maxClassificationEvidencePerSource ≤ count then keepBounded perSource (room + 1) rest
    else item :: keepBounded (perSource.set item.sourceKey (count + 1)) room rest

/-- The latest item of each key that is not dated ahead. -/
def latestEvidence (evidence : List ClassificationEvidence) (now : Time) :
    Dict (List Char × List Char × List Char) ClassificationEvidence :=
  bestByKey evidenceKey laterThan ((evidence.take maxClassificationEvidenceInput).filter (!isFuture now ·))

def futureRejected (evidence : List ClassificationEvidence) (now : Time) : Bool :=
  (evidence.take maxClassificationEvidenceInput).any (isFuture now)

/-- `_select_effective_evidence`, without whether it rejected evidence. -/
def selectEffectiveEvidence (evidence : List ClassificationEvidence) (now : Time) : List ClassificationEvidence :=
  keepBounded Dict.empty maxClassificationEvidence (sortedDescending evidenceRank (latestEvidence evidence now).values)

end Selection

section Attributes

/-- The value of an attribute and the evidence for it. -/
def bestAttribute (signals : List Signal) (attr : SignalAttribute) : Option (List Char) × List String :=
  let candidates := sortedDescending (fun signal : Signal => toLex (signal.weight, toLex (signal.direct, signal.value)))
    (signals.filter fun signal => signal.attr = attr && signal.value ≠ [])
  match candidates with
  | [] => (none, [])
  | selected :: _ =>
    (some selected.value, ((candidates.filter fun signal => casefold signal.value = casefold selected.value).map
      (·.evidenceId)).take maxClassificationReferences)

/-- The strongest signal of each source for each value. -/
abbrev Votes := Dict (List Char) (Dict (List Char) Signal)

/-- One turn of a loop over votes, where a signal takes the place of a weaker one of its source. -/
def castVote (value : Signal → List Char) (stronger : Signal → Signal → Bool) (votes : Votes) (signal : Signal) : Votes :=
  votes.update (value signal) fun old =>
    let source := old.getD Dict.empty
    match source.get? signal.sourceKey with
    | none => source.set signal.sourceKey signal
    | some previous => if stronger signal previous then source.set signal.sourceKey signal else source

/-- A value with its score, whether it was seen directly, and the signals for it. -/
structure Ranked where
  value : List Char
  score : ℚ
  direct : Bool
  signals : List Signal

def maxWeight (signals : List Signal) : ℚ := (signals.map (·.weight)).foldl max 0

def rankVotes (votes : Votes) : List Ranked :=
  sortedDescending (fun ranked : Ranked => toLex (ranked.score, toLex (ranked.direct, ranked.value)))
    (votes.entries.map fun (value, bySource) =>
      let agreement := min (float (((bySource.values.length - 1 : Nat) : ℚ) * float (5 / 100))) (float (10 / 100))
      { value
        score := min (float (maxWeight bySource.values + agreement)) (float (99 / 100))
        direct := bySource.values.any (·.direct)
        signals := bySource.values })

structure ClassificationConflict where
  conflictType : String
  selectedValue : List Char
  conflictingValue : List Char
  supportingEvidenceIds : List String
  conflictingEvidenceIds : List String
  reasonCode : ReasonCode := .materialEvidenceConflict
deriving DecidableEq, Repr

/-- Whether the second value disagrees with the first one to an extent that matters. -/
def isMaterial (selected conflicting : Ranked) : Bool :=
  (conflicting.signals.any fun signal => !(selected.signals.map (·.sourceKey)).contains signal.sourceKey) &&
    ((selected.direct && conflicting.direct && float (55 / 100) ≤ conflicting.score) ||
      (selected.direct && float (62 / 100) ≤ conflicting.score) ||
      (!selected.direct && float (58 / 100) ≤ conflicting.score))

def evidenceIds (ranked : Ranked) : List String := (ranked.signals.map (·.evidenceId)).take maxClassificationReferences

/-- The first two values, if the second disagrees. -/
def materialConflict (shown : List Char → List Char) (conflictType : String) : List Ranked → Option ClassificationConflict
  | selected :: conflicting :: _ =>
    if isMaterial selected conflicting then
      some {
        conflictType
        selectedValue := shown selected.value
        conflictingValue := shown conflicting.value
        supportingEvidenceIds := evidenceIds selected
        conflictingEvidenceIds := evidenceIds conflicting }
    else none
  | _ => none

/-- `_attribute_conflict`. -/
def attributeConflict (signals : List Signal) (attr : SignalAttribute) (conflictType : String) : Option ClassificationConflict :=
  let relevant := signals.filter fun signal => signal.attr = attr && signal.value ≠ []
  let displayValues : Dict (List Char) (List Char) :=
    relevant.foldl (fun shown signal => shown.update (casefold signal.value) (·.getD signal.value)) Dict.empty
  let votes : Votes := relevant.foldl (castVote (fun signal => casefold signal.value) fun signal previous =>
    toLex (previous.weight, previous.direct) < toLex (signal.weight, signal.direct)) Dict.empty
  materialConflict (fun value => (displayValues.get? value).getD value) conflictType (rankVotes votes)

/-- `_category_votes`. -/
def categoryVotes (signals : List Signal) : Votes :=
  (signals.filter fun signal => signal.attr = .category && signal.value ≠ AssetCategory.unknown.text.toList).foldl
    (castVote (·.value) fun signal previous =>
      toLex (previous.direct, previous.weight) < toLex (signal.direct, signal.weight)) Dict.empty

end Attributes

section Classify

def categories : List AssetCategory :=
  [.workstation, .server, .mobile, .networkDevice, .printer, .camera, .mediaDevice, .storage, .iot, .otIndustrial,
    .virtualMachine, .unknown]

/-- The category that a vote is for. -/
def categoryOf (value : List Char) : AssetCategory := (categories.find? (·.text.toList = value)).getD .unknown

/-- `_overall_freshness`. -/
def overallFreshness (evidence : List ClassificationEvidence) (now : Time) : EvidenceFreshness :=
  let states := evidence.map (·.freshness now)
  ([EvidenceFreshness.fresh, .aging, .stale].find? (states.contains ·)).getD .unknown

/-- `round(x, 4)`. -/
def roundFour (x : ℚ) : ℚ := float (roundEven (x * 10 ^ 4) / 10 ^ 4)

structure ClassificationResult where
  classificationId : String
  assetId : List Char
  siteId : List Char
  classifierVersion : String
  category : AssetCategory
  subtype : Option (List Char)
  manufacturer : Option (List Char)
  productHint : Option (List Char)
  osFamily : Option (List Char)
  osVersionHint : Option (List Char)
  managedCapability : ManagedCapability
  confidence : ℚ
  status : ClassificationStatus
  supportingEvidenceIds : List String
  conflictingEvidenceIds : List String
  independentSourceCount : Nat
  evidenceCount : Nat
  firstClassifiedAt : Time
  lastClassifiedAt : Time
  evaluatedAt : Time
  freshness : EvidenceFreshness
  reasonCodes : List ReasonCode
  conflicts : List ClassificationConflict
deriving DecidableEq, Repr

/-- The verdict of the classifier: its category, status, confidence and the reason for it. -/
structure Verdict where
  category : AssetCategory
  status : ClassificationStatus
  confidence : ℚ
  reason : List ReasonCode

/-- The branches over the conflicts and the best score. -/
def verdict (signals : List Signal) (ranked : List Ranked) (conflicted : Bool) (known : Nat) : Verdict :=
  let bestScore := (ranked.head?.map (·.score)).getD 0
  let category := (ranked.head?.map fun best => categoryOf best.value).getD .unknown
  let bonus := min (float (float (2 / 100) * known)) (float (8 / 100))
  let penalty := if conflicted then float (22 / 100) else 0
  let confidence := max 0 (min (float (float (bestScore + bonus) - penalty)) (float (99 / 100)))
  if conflicted then ⟨category, .conflicting, confidence, []⟩
  else if ranked.isEmpty then
    ⟨category, if signals.isEmpty then .unknown else .insufficientEvidence, min (maxWeight signals) (float (39 / 100)),
      [if signals.isEmpty then .noCategoryEvidence else .insufficientCategoryEvidence]⟩
  else if float (72 / 100) ≤ bestScore then ⟨category, .classified, confidence, []⟩
  else if float (45 / 100) ≤ bestScore then ⟨category, .partiallyClassified, confidence, []⟩
  else ⟨.unknown, .insufficientEvidence, min confidence (float (44 / 100)), [.insufficientCategoryEvidence]⟩

/-- The conflicts of the signals: between categories, and of the attributes that may conflict. -/
def conflictsOf (signals : List Signal) (ranked : List Ranked) : List ClassificationConflict :=
  (materialConflict id "category" ranked).toList ++ (attributeConflict signals .subtype "device-role").toList ++
    (attributeConflict signals .osFamily "os-family").toList ++
    (attributeConflict signals .osVersionHint "os-version").toList

/-- The evidence of the second category, if it conflicts with the first. -/
def conflictingIds (ranked : List Ranked) (conflicts : List ClassificationConflict) : List String :=
  let signals := match ranked with
    | selected :: conflicting :: _ => if isMaterial selected conflicting then conflicting.signals else []
    | _ => []
  ((signals.map (·.evidenceId) ++ conflicts.flatMap (·.conflictingEvidenceIds)).eraseDups).take maxClassificationReferences

/-- What is reported of the selected evidence as a whole. -/
def evidenceReasons (selected : List ClassificationEvidence) (now : Time) : List ReasonCode :=
  (if selected.any (fun item => item.freshness now = .stale) then [.staleEvidenceDiscounted] else []) ++
    if selected.any (·.sourceRevoked) then [.revokedSourceDiscounted] else []

variable (classificationIdFor : String → String → String)

/-- What `classify_asset` makes of the evidence that it has selected. -/
def classifySelected (siteId assetId : String) (selected : List ClassificationEvidence) (future : Bool) (now : Time)
    (previous : Option Time) : ClassificationResult :=
  let signals := selected.flatMap fun item => signalsForEvidence item now
  let ranked := rankVotes (categoryVotes signals)
  let chosen := (ranked.head?.map (·.signals)).getD []
  let conflicts := conflictsOf signals ranked
  let manufacturer := bestAttribute signals .manufacturer
  let subtype := bestAttribute signals .subtype
  let productHint := bestAttribute signals .productHint
  let osFamily := bestAttribute signals .osFamily
  let osVersionHint := bestAttribute signals .osVersionHint
  let supporting := (chosen.map (·.evidenceId) ++ manufacturer.2 ++ subtype.2 ++ productHint.2 ++ osFamily.2 ++
    osVersionHint.2).eraseDups
  let conflicting := conflictingIds ranked conflicts
  let used := selected.filter fun item => supporting.contains item.evidenceId || conflicting.contains item.evidenceId
  let sources := (chosen.map (·.sourceKey)).eraseDups.length
  let known := [manufacturer.1, subtype.1, productHint.1, osFamily.1].countP (·.isSome)
  let verdict := verdict signals ranked (!conflicts.isEmpty) known
  let reasons := (if future then [ReasonCode.futureEvidenceRejected] else []) ++ conflicts.map (·.reasonCode) ++
    (if 1 < sources then [.independentSourceAgreement] else []) ++ evidenceReasons selected now ++ verdict.reason
  { classificationId := classificationIdFor siteId assetId
    assetId := boundedText 160 assetId.toList
    siteId := boundedText 128 siteId.toList
    classifierVersion := classifierVersion
    category := verdict.category
    subtype := subtype.1
    manufacturer := manufacturer.1
    productHint := productHint.1
    osFamily := osFamily.1
    osVersionHint := osVersionHint.1
    managedCapability := managedCapabilityFor verdict.category
    confidence := roundFour verdict.confidence
    status := verdict.status
    supportingEvidenceIds := supporting.take maxClassificationReferences
    conflictingEvidenceIds := conflicting
    independentSourceCount := sources
    evidenceCount := selected.length
    firstClassifiedAt := previous.getD now
    lastClassifiedAt := now
    evaluatedAt := now
    freshness := overallFreshness (if used.isEmpty then selected else used) now
    reasonCodes := ((signals.map (·.reasonCode) ++ reasons).eraseDups).take maxReasonCodes
    conflicts := conflicts.take maxConflicts }

/-- `classify_asset`, after a classification that was first made at `previous`. -/
def classifyAsset (siteId assetId : String) (evidence : List ClassificationEvidence) (now : Time) (previous : Option Time) :
    ClassificationResult :=
  classifySelected classificationIdFor siteId assetId (selectEffectiveEvidence evidence now) (futureRejected evidence now) now
    previous

end Classify

end OpenAssetWatch.Classification
