import OpenAssetWatch.Agent.Software

namespace OpenAssetWatch.Agent

open Sensor Text
open Sensor.GoString (ofText ofChars trimmed toLower received runes_trimmed trimmed_sublist byteLength_le_of_sublist length_toLower)

section Texts

variable {beyond : Char → Char} {value : GoString} {maximum : Nat} {text : List Char}

/-- A text as `boundedText` leaves it. -/
structure IsBounded (maximum : Nat) (value : GoString) : Prop where
  trimmed : stripChars isGoSpace value.runes = value.runes
  short : value.byteLength ≤ maximum

theorem isBounded_nil (maximum : Nat) : IsBounded maximum [] := ⟨rfl, Nat.zero_le _⟩

theorem isBounded_boundedText (value : GoString) (maximum : Nat) : IsBounded maximum (boundedText value maximum) := by
  unfold boundedText
  dsimp only
  split
  · exact isBounded_nil maximum
  · split
    · exact isBounded_nil maximum
    · next short =>
      constructor
      · rw [runes_trimmed, stripChars_stripChars]
      · exact not_lt.mp short

/-- A token of at most so many runes. -/
structure IsToken (maximum : Nat) (value : GoString) : Prop where
  allowed : ∀ rune ∈ value, isTokenRune rune.decoded = true
  short : value.length ≤ maximum

theorem isToken_boundedToken (beyond : Char → Char) (value : GoString) (maximum : Nat) :
    IsToken maximum (boundedToken beyond value maximum) := by
  unfold boundedToken
  dsimp only
  split
  · next allowed =>
    constructor
    · exact List.all_eq_true.mp allowed
    · rw [length_toLower]
      exact (length_le_byteLength _).trans (isBounded_boundedText value maximum).short
  · constructor
    · intro rune absent
      cases absent
    · exact Nat.zero_le _

theorem isTokenRune_range {c : Char} (allowed : isTokenRune c = true) :
    (97 ≤ c.toNat ∧ c.toNat ≤ 122) ∨ (48 ≤ c.toNat ∧ c.toNat ≤ 57) ∨ c.toNat = 46 ∨ c.toNat = 95 ∨ c.toNat = 45 := by
  unfold isTokenRune at allowed
  simp only [Bool.or_eq_true, beq_iff_eq] at allowed
  rcases allowed with (((lower | digit) | rfl) | rfl) | rfl
  · left
    simpa [Char.isLower, UInt32.le_iff_toNat_le] using lower
  · right
    left
    simpa [Char.isDigit, UInt32.le_iff_toNat_le] using digit
  · right; right; left; rfl
  · right; right; right; left; rfl
  · right; right; right; right; rfl

theorem not_space_of_token {c : Char} (allowed : isTokenRune c = true) : isGoSpace c = false := by
  have range := isTokenRune_range allowed
  unfold isGoSpace
  simp only [Bool.or_eq_false_iff, Bool.and_eq_false_iff, decide_eq_false_iff_not, beq_eq_false_iff_ne]
  omega

theorem not_control_of_token {c : Char} (allowed : isTokenRune c = true) : isControlRune c = false := by
  have range := isTokenRune_range allowed
  unfold isControlRune
  simp only [Bool.or_eq_false_iff, Bool.and_eq_false_iff, decide_eq_false_iff_not]
  omega

theorem toLower_of_token {c : Char} (allowed : isTokenRune c = true) : c.toLower = c := by
  have range := isTokenRune_range allowed
  unfold Char.toLower
  rw [dif_neg]
  rintro ⟨low, high⟩
  have low : 65 ≤ c.toNat := UInt32.le_iff_toNat_le.mp low
  have high : c.toNat ≤ 90 := UInt32.le_iff_toNat_le.mp high
  omega

theorem IsToken.bare (token : IsToken maximum value) : stripChars isGoSpace value.runes = value.runes := by
  have each : ∀ c ∈ value.runes, isGoSpace c = false := by
    intro c member
    obtain ⟨rune, listed, same⟩ := List.mem_map.mp member
    rw [← same]
    exact not_space_of_token (token.allowed rune listed)
  apply stripChars_eq_self
  · exact fun c head => each c (List.mem_of_mem_head? head)
  · exact fun c last => each c (List.mem_of_mem_getLast? last)

theorem boundedToken_ofChars (beyond : Char → Char) (allowed : ∀ c ∈ text, isTokenRune c = true) (short : text.length ≤ maximum) :
    boundedToken beyond (ofChars text) maximum = ofChars text := by
  have runes : ∀ rune ∈ ofChars text, isTokenRune rune.decoded = true := by
    intro rune member
    obtain ⟨c, listed, same⟩ := List.mem_map.mp member
    rw [← same]
    exact allowed c listed
  have kept : trimmed (ofChars text) = ofChars text := by
    have whole := GoString.runes_trimmed (ofChars text)
    rw [(IsToken.mk runes le_rfl).bare] at whole
    exact (trimmed_sublist (ofChars text)).eq_of_length (by rw [← GoString.length_runes, whole, GoString.length_runes])
  have size : (ofChars text).byteLength = text.length := by
    have ascii : ∀ c, isTokenRune c = true → c.toNat < 128 := by
      intro c token
      have range := isTokenRune_range token
      omega
    rw [byteLength_of_ascii ascii (List.all_eq_true.mpr runes)]
    exact List.length_map _
  have plain : boundedText (ofChars text) maximum = ofChars text := by
    unfold boundedText
    dsimp only
    rw [kept, if_neg, if_neg]
    · rw [size]
      exact not_lt.mpr short
    · rw [List.any_eq_true]
      rintro ⟨rune, member, control⟩
      rw [not_control_of_token (runes rune member)] at control
      cases control
  have lower : toLower beyond (ofChars text) = ofChars text := by
    unfold toLower ofChars
    rw [List.map_map]
    apply List.map_congr_left
    intro c member
    have range := isTokenRune_range (allowed c member)
    show Rune.char (if c.toNat < 128 then c.toLower else beyond c) = Rune.char c
    rw [if_pos (by omega), toLower_of_token (allowed c member)]
  unfold boundedToken
  dsimp only
  rw [plain, lower, if_pos (List.all_eq_true.mpr runes)]

theorem boundedToken_ofText (beyond : Char → Char) {text : String}
    (fits : (text.toList.all isTokenRune && text.toList.length ≤ maximum) = true) :
    boundedToken beyond (ofText text) maximum = ofText text := by
  rw [Bool.and_eq_true, decide_eq_true_eq] at fits
  exact boundedToken_ofChars beyond (List.all_eq_true.mp fits.1) fits.2

theorem mem_boundedLimitations {values : List GoString} {limitation : GoString}
    (member : limitation ∈ boundedLimitations beyond values) : IsToken 120 limitation ∧ limitation ≠ [] := by
  have listed := List.mem_of_mem_take ((List.perm_insertionSort _ _).mem_iff.mp member)
  rw [List.mem_eraseDups, List.mem_filter, decide_eq_true_eq] at listed
  obtain ⟨token, nonempty⟩ := listed
  obtain ⟨value, -, same⟩ := List.mem_map.mp token
  rw [← same]
  rw [← same] at nonempty
  exact ⟨isToken_boundedToken beyond value 120, nonempty⟩

theorem length_boundedLimitations (beyond : Char → Char) (values : List GoString) : (boundedLimitations beyond values).length ≤ 8 := by
  unfold boundedLimitations sortStrings
  rw [List.length_insertionSort]
  exact List.length_take_le _ _

theorem boundedLimitations_ne_nil {values : List GoString} {limitation : GoString} (member : limitation ∈ values)
    (safe : boundedToken beyond limitation 120 ≠ []) : boundedLimitations beyond values ≠ [] := by
  intro empty
  unfold boundedLimitations sortStrings at empty
  have none_left := List.length_eq_zero_iff.mpr empty
  rw [List.length_insertionSort, List.length_take] at none_left
  have listed : boundedToken beyond limitation 120 ∈
      (((values.map fun value => boundedToken beyond value 120).filter (· ≠ [])).eraseDups) := by
    rw [List.mem_eraseDups, List.mem_filter, decide_eq_true_eq]
    exact ⟨List.mem_map_of_mem member, safe⟩
  have some_left := List.length_pos_of_mem listed
  omega

end Texts

section Reports

variable {beyond : Char → Char} {observedAt : Time} {manager : PackageManager} {component : SoftwareComponent}

/-- A component of a package, as `boundedComponent` leaves it. -/
structure IsPackage (manager : PackageManager) (observedAt : Time) (component : SoftwareComponent) : Prop where
  componentType : component.componentType = ofText "operating-system-package"
  ecosystem : component.ecosystem = ofText manager.ecosystem
  vendor : component.vendor = []
  packageManager : component.packageManager = ofText manager.manager
  packageUrl : component.packageUrl = []
  installScope : component.installScope = ofText "system"
  collectionSource : component.collectionSource = ofText manager.sourceId
  evidenceMethod : component.evidenceMethod = ofText (manager.manager ++ "-native-query")
  observedAt : component.observedAt = some observedAt
  confidence : component.confidence = 95 / 100
  metadata : component.metadata = []
  name : IsBounded 240 component.name
  version : IsBounded 160 component.version
  architecture : IsToken 40 component.architecture
  sourceRecordId : IsBounded 240 component.sourceRecordId

/-- The constants of a package manager are tokens. -/
structure HasTokens (beyond : Char → Char) (manager : PackageManager) : Prop where
  ecosystem : boundedToken beyond (ofText manager.ecosystem) 40 = ofText manager.ecosystem
  named : ofText manager.ecosystem ≠ []
  executable : boundedToken beyond (ofText manager.manager) 48 = ofText manager.manager
  sourceId : boundedToken beyond (ofText manager.sourceId) 64 = ofText manager.sourceId
  evidenceMethod : boundedToken beyond (ofText (manager.manager ++ "-native-query")) 64 = ofText (manager.manager ++ "-native-query")

theorem hasTokens_dpkg (beyond : Char → Char) : HasTokens beyond dpkg where
  ecosystem := boundedToken_ofText beyond (by decide)
  named := by decide
  executable := boundedToken_ofText beyond (by decide)
  sourceId := boundedToken_ofText beyond (by decide)
  evidenceMethod := boundedToken_ofText beyond (by decide)

theorem hasTokens_rpm (beyond : Char → Char) : HasTokens beyond rpm where
  ecosystem := boundedToken_ofText beyond (by decide)
  named := by decide
  executable := boundedToken_ofText beyond (by decide)
  sourceId := boundedToken_ofText beyond (by decide)
  evidenceMethod := boundedToken_ofText beyond (by decide)

theorem isPackage_boundedComponent (tokens : HasTokens beyond manager) (name version architecture : GoString) :
    IsPackage manager observedAt
      (boundedComponent beyond (packageComponent manager observedAt name version architecture) observedAt) := by
  have packageType : boundedToken beyond (ofText "operating-system-package") 40 = ofText "operating-system-package" :=
    boundedToken_ofText beyond (by decide)
  have scope_ : boundedToken beyond (ofText "system") 40 = ofText "system" := boundedToken_ofText beyond (by decide)
  unfold boundedComponent packageComponent
  dsimp only
  rw [packageType, tokens.ecosystem, tokens.executable, tokens.sourceId, tokens.evidenceMethod, scope_]
  constructor
  · rfl
  · exact if_neg tokens.named
  · rfl
  · rfl
  · rfl
  · rfl
  · rfl
  · rfl
  · rfl
  · exact if_neg (by norm_num)
  · rfl
  · exact isBounded_boundedText _ _
  · exact isBounded_boundedText _ _
  · exact isToken_boundedToken _ _ _
  · exact isBounded_boundedText _ _

theorem parseRow_eq_some {line : GoString} (parsed : parseRow manager observedAt line = some component) :
    ∃ name version architecture, component = packageComponent manager observedAt name version architecture := by
  unfold parseRow at parsed
  split at parsed
  · dsimp only at parsed
    split at parsed
    · exact ⟨_, _, _, (Option.some.inj parsed).symm⟩
    · exact ⟨_, _, _, (Option.some.inj parsed).symm⟩
  · cases parsed

theorem mem_parseLinuxRows {output : GoString} (member : component ∈ (parseLinuxRows manager observedAt output).1) :
    ∃ name version architecture, component = packageComponent manager observedAt name version architecture := by
  obtain ⟨row, listed, same⟩ := List.mem_filterMap.mp member
  obtain ⟨line, -, parsed⟩ := List.mem_map.mp listed
  cases same
  exact parseRow_eq_some parsed

theorem mem_collectLinuxSource {outcome : Option CommandOutcome}
    (member : component ∈ (collectLinuxSource observedAt manager outcome).components) :
    ∃ name version architecture, component = packageComponent manager observedAt name version architecture := by
  unfold collectLinuxSource at member
  split at member
  · cases member
  · split at member
    · cases member
    · cases member
    · exact mem_parseLinuxRows member

theorem isPackage_of_mem {sorting : SliceSort} {dpkgOutcome rpmOutcome : Option CommandOutcome}
    (member : component ∈ orderedComponents sorting beyond (collectPlatform observedAt dpkgOutcome rpmOutcome) observedAt) :
    IsPackage dpkg observedAt component ∨ IsPackage rpm observedAt component := by
  obtain ⟨raw, listed, same⟩ := List.mem_map.mp member
  rw [← same]
  have collected := (sorting.perm _ _).mem_iff.mp listed
  rcases List.mem_append.mp collected with first | second
  · obtain ⟨name, version, architecture, made⟩ := mem_collectLinuxSource first
    rw [made]
    exact .inl (isPackage_boundedComponent (hasTokens_dpkg beyond) name version architecture)
  · obtain ⟨name, version, architecture, made⟩ := mem_collectLinuxSource second
    rw [made]
    exact .inr (isPackage_boundedComponent (hasTokens_rpm beyond) name version architecture)

/-- A source's result, as the loop of `finalize` has it. -/
structure IsReport (observedAt : Time) (source : SoftwareSourceResult) : Prop where
  platform : source.platform = ofText "linux"
  observedAt : source.observedAt = some observedAt
  errorCode : source.errorCode ∈ [[], ofText "package-manager-unavailable", ofText "command-timeout", ofText "command-failed",
    ofText "output-limit"]
  few : source.limitations.length ≤ 8
  limitations : ∀ limitation ∈ source.limitations, IsToken 120 limitation ∧ limitation ≠ []
  named : ∀ text, source.status ≠ .other text
  complete : source.status = .complete → source.truncated = false ∧ source.errorCode = []
  partially_ : source.status = .partially → source.truncated = true ∨ source.errorCode ≠ [] ∨ source.limitations ≠ []
  unsuccessful : source.status.isUnsuccessful = true → source.errorCode ≠ []

theorem isReport_of {source : SoftwareSourceResult} (platform : source.platform = ofText "linux")
    (observed : source.observedAt = some observedAt)
    (errorCode : source.errorCode ∈ [[], ofText "package-manager-unavailable", ofText "command-timeout", ofText "command-failed",
      ofText "output-limit"])
    (status : source.status = .complete ∧ source.truncated = false ∧ source.errorCode = [] ∨
      source.status = .partially ∧ (source.errorCode ≠ [] ∨ ofText "malformed-records-skipped" ∈ source.limitations) ∨
      source.status.isUnsuccessful = true ∧ source.errorCode ≠ []) : IsReport observedAt (boundedSource beyond source observedAt) := by
  have linux : boundedToken beyond (ofText "linux") 32 = ofText "linux" := boundedToken_ofText beyond (by decide)
  have codes : boundedToken beyond source.errorCode 80 = source.errorCode := by
    simp only [List.mem_cons, List.not_mem_nil, or_false] at errorCode
    rcases errorCode with same | same | same | same | same
    · rw [same]
      rfl
    · rw [same]
      exact boundedToken_ofText beyond (by decide)
    · rw [same]
      exact boundedToken_ofText beyond (by decide)
    · rw [same]
      exact boundedToken_ofText beyond (by decide)
    · rw [same]
      exact boundedToken_ofText beyond (by decide)
  have named : ∀ text, source.status ≠ .other text := by
    rintro text same
    rcases status with ⟨other, -⟩ | ⟨other, -⟩ | ⟨other, -⟩
    · rw [same] at other
      cases other
    · rw [same] at other
      cases other
    · rw [same] at other
      cases other
  have kept : boundedSource beyond source observedAt = { source with
      platform := ofText "linux"
      sourceId := boundedToken beyond source.sourceId 64
      observedAt := some observedAt
      limitations := boundedLimitations beyond source.limitations
      recordCount := 0 } := by
    unfold boundedSource
    cases known : source.status with
    | other text => exact absurd known (named text)
    | _ =>
      dsimp only
      rw [platform, linux, codes, observed]
      cases source
      cases known
      rfl
  rw [kept]
  constructor
  · rfl
  · rfl
  · exact errorCode
  · exact length_boundedLimitations beyond _
  · exact fun limitation member => mem_boundedLimitations member
  · exact named
  · intro complete
    rcases status with ⟨-, holds⟩ | ⟨other, -⟩ | ⟨other, -⟩
    · exact holds
    · exact absurd (complete.symm.trans other) (by decide)
    · rw [show source.status = .complete from complete] at other
      cases other
  · intro partially_
    rcases status with ⟨other, -⟩ | ⟨-, code | limitation⟩ | ⟨other, -⟩
    · exact absurd (partially_.symm.trans other) (by decide)
    · exact .inr (.inl code)
    · have token : boundedToken beyond (ofText "malformed-records-skipped") 120 = ofText "malformed-records-skipped" :=
        boundedToken_ofText beyond (by decide)
      refine .inr (.inr (boundedLimitations_ne_nil limitation ?_))
      rw [token]
      decide
    · rw [show source.status = .partially from partially_] at other
      cases other
  · intro unsuccessful
    rcases status with ⟨other, -⟩ | ⟨other, -⟩ | ⟨-, code⟩
    · rw [show source.status = .complete from other] at unsuccessful
      cases unsuccessful
    · rw [show source.status = .partially from other] at unsuccessful
      cases unsuccessful
    · exact code

theorem collectLinuxSource_report (beyond : Char → Char) (observedAt : Time) (manager : PackageManager)
    (outcome : Option CommandOutcome) :
    ∃ source, (collectLinuxSource observedAt manager outcome).sources = [source] ∧ source.sourceId = ofText manager.sourceId ∧
      IsReport observedAt (boundedSource beyond source observedAt) := by
  have unavailable : ofText "package-manager-unavailable" ≠ [] := by decide
  have timeout : ofText "command-timeout" ≠ [] := by decide
  have failed : ofText "command-failed" ≠ [] := by decide
  have limit : ofText "output-limit" ≠ [] := by decide
  unfold collectLinuxSource
  dsimp only
  split
  · exact ⟨_, rfl, rfl, isReport_of rfl rfl (by simp) (.inr (.inr ⟨rfl, unavailable⟩))⟩
  · split
    · exact ⟨_, rfl, rfl, isReport_of rfl rfl (by simp) (.inr (.inr ⟨rfl, timeout⟩))⟩
    · exact ⟨_, rfl, rfl, isReport_of rfl rfl (by simp) (.inr (.inr ⟨rfl, failed⟩))⟩
    · next outcome _ _ _ =>
      generalize parseLinuxRows manager observedAt outcome.output = parsed
      obtain ⟨components, malformed⟩ := parsed
      by_cases limited : outcome.error = some .outputLimit
      · simp only [if_pos limited]
        by_cases some_ : 0 < malformed
        · simp only [if_pos some_]
          exact ⟨_, rfl, rfl, isReport_of rfl rfl (by simp) (.inr (.inl ⟨rfl, .inl limit⟩))⟩
        · simp only [if_neg some_]
          exact ⟨_, rfl, rfl, isReport_of rfl rfl (by simp) (.inr (.inl ⟨rfl, .inl limit⟩))⟩
      · simp only [if_neg limited]
        by_cases some_ : 0 < malformed
        · simp only [if_pos some_]
          exact ⟨_, rfl, rfl, isReport_of rfl rfl (by simp) (.inr (.inl ⟨rfl, .inr (by simp)⟩))⟩
        · simp only [if_neg some_]
          exact ⟨_, rfl, rfl, isReport_of rfl rfl (by simp) (.inl ⟨rfl, rfl, rfl⟩)⟩

end Reports

end OpenAssetWatch.Agent
