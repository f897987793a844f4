import HybridDataSvc.Audit.Coverage

namespace HybridDataSvc

open Relational Series

/-!
# The series of one provider

The audit groups by symbol and timeframe, the primary key of `bars` has the
provider as well.  The two agree where a symbol and a timeframe have bars of
one provider only.
-/

section Providers

variable {F : Type}

def bucketTimes (store : Store F) (bucket : Bucket) : List Int :=
  (store.bucketRows bucket).map BarRow.ts

theorem storedTimes_eq (store : Store F) (bucket : Bucket) :
    store.storedTimes bucket = { ts | ts ∈ bucketTimes store bucket } := by
  ext ts
  constructor
  · rintro ⟨row, member, named, rfl⟩
    exact List.mem_map_of_mem ((store.mem_bucketRows bucket row).mpr ⟨member, named⟩)
  · intro member
    rcases List.mem_map.mp member with ⟨row, rowMem, rfl⟩
    have parts := (store.mem_bucketRows bucket row).mp rowMem
    exact ⟨row, parts.1, parts.2, rfl⟩

theorem nodup_bucketTimes (store : Store F) (bucket : Bucket) : (bucketTimes store bucket).Nodup :=
  store.nodup_bucketRows_ts bucket

/-- No series of a known timeframe misses a bar: its timestamps are those of the
grid from its first to its last. -/
def AllContiguous (store : Store F) : Prop :=
  forall bucket secs, tfSecs bucket.timeframe = some secs ->
    Contiguous secs (store.storedTimes bucket)

/-- The bars of every symbol and timeframe balance, those of its providers taken
together: they are on one grid, and as many are at a timestamp another one of
them has as there are slots without a bar. -/
def AllBalanced (store : Store F) : Prop :=
  forall symbol timeframe secs, tfSecs timeframe = some secs ->
    Balanced secs (seriesTimes store symbol timeframe)

/-- Two providers have bars of the symbol and the timeframe. -/
def Shared (store : Store F) (symbol timeframe : String) : Prop :=
  exists first second, first ∈ seriesRows store symbol timeframe ∧
    second ∈ seriesRows store symbol timeframe ∧
    first.bucket.provider ≠ second.bucket.provider

/-- What the bars of several providers have to be like for the audit to be exact. -/
structure ProvidersAgree (store : Store F) : Prop where
  noFalseAlarm : AllContiguous store -> forall symbol timeframe secs,
    tfSecs timeframe = some secs -> Shared store symbol timeframe ->
      Balanced secs (seriesTimes store symbol timeframe)
  nothingHidden : AllBalanced store -> forall bucket secs,
    tfSecs bucket.timeframe = some secs -> Shared store bucket.symbol bucket.timeframe ->
      Contiguous secs (store.storedTimes bucket)

variable {store : Store F} {symbol timeframe : String}

/-- Without a second provider the bars of the series are those of one bucket. -/
theorem seriesTimes_of_not_shared (single : ¬ Shared store symbol timeframe) {row : BarRow F}
    (member : row ∈ seriesRows store symbol timeframe) :
    seriesTimes store symbol timeframe =
      bucketTimes store ⟨symbol, timeframe, row.bucket.provider⟩ := by
  apply congrArg (List.map BarRow.ts)
  apply List.filter_congr
  intro other otherMem
  rw [← Bool.decide_and, decide_eq_decide]
  constructor
  · rintro ⟨rfl, rfl⟩
    have listed : other ∈ seriesRows store other.bucket.symbol other.bucket.timeframe :=
      (mem_seriesRows _ _ _ _).mpr ⟨otherMem, rfl, rfl⟩
    have provider : other.bucket.provider = row.bucket.provider := by
      by_contra different
      exact single ⟨other, row, listed, member, different⟩
    rw [← provider]
  · intro named
    rw [named]
    exact ⟨rfl, rfl⟩

/-- The audit is exact about a series of one provider. -/
theorem balanced_iff_of_not_shared {secs : Int} (known : tfSecs timeframe = some secs)
    (single : ¬ Shared store symbol timeframe) :
    Balanced secs (seriesTimes store symbol timeframe) ↔
      forall provider, Contiguous secs (store.storedTimes ⟨symbol, timeframe, provider⟩) := by
  constructor
  · intro balanced provider first last least greatest
    rcases least.1 with ⟨row, rowMem, named, _⟩
    have member : row ∈ seriesRows store symbol timeframe :=
      (mem_seriesRows _ _ _ _).mpr ⟨rowMem, by rw [named], by rw [named]⟩
    rw [seriesTimes_of_not_shared single member, named,
      balanced_iff_contiguous (tfSecs_pos known) (nodup_bucketTimes store _),
      ← storedTimes_eq] at balanced
    exact balanced first last least greatest
  · intro contiguous first last least greatest
    rcases (mem_seriesTimes _ _ _ _).mp least.1 with ⟨row, member, _⟩
    have whole := contiguous row.bucket.provider
    rw [storedTimes_eq, ← balanced_iff_contiguous (tfSecs_pos known) (nodup_bucketTimes store _),
      ← seriesTimes_of_not_shared single member] at whole
    exact whole first last least greatest

/-- With one provider for each series the audit is exact. -/
theorem problems_eq_nil_iff_of_single {store : Store F}
    (single : forall symbol timeframe, ¬ Shared store symbol timeframe) :
    (auditIntegrity store).problems = [] ↔ AllContiguous store := by
  rw [problems_eq_nil_iff]
  constructor
  · intro balanced bucket secs known
    exact (balanced_iff_of_not_shared known (single bucket.symbol bucket.timeframe)).mp
      (balanced bucket.symbol bucket.timeframe secs known) bucket.provider
  · intro contiguous symbol timeframe secs known
    refine (balanced_iff_of_not_shared known (single symbol timeframe)).mpr ?_
    intro provider
    exact contiguous ⟨symbol, timeframe, provider⟩ secs known

/-- The audit reports a problem exactly when a series misses a bar, if and only if
the bars of several providers neither look broken together when none of them
is nor make up for what one of them misses. -/
theorem audit_finds_broken_iff (store : Store F) :
    ((auditIntegrity store).problems = [] ↔ AllContiguous store) ↔ ProvidersAgree store := by
  rw [problems_eq_nil_iff]
  constructor
  · intro exact_
    constructor
    · intro contiguous symbol timeframe secs known _
      exact exact_.mpr contiguous symbol timeframe secs known
    · intro balanced bucket secs known _
      exact exact_.mp balanced bucket secs known
  · intro agree
    constructor
    · intro balanced bucket secs known
      by_cases shared : Shared store bucket.symbol bucket.timeframe
      · exact agree.nothingHidden balanced bucket secs known shared
      · exact (balanced_iff_of_not_shared known shared).mp
          (balanced bucket.symbol bucket.timeframe secs known) bucket.provider
    · intro contiguous symbol timeframe secs known
      by_cases shared : Shared store symbol timeframe
      · exact agree.noFalseAlarm contiguous symbol timeframe secs known shared
      · apply (balanced_iff_of_not_shared known shared).mpr
        intro provider
        exact contiguous ⟨symbol, timeframe, provider⟩ secs known

end Providers

section Example

/-- An hour two providers have is one bar too many. -/
example :
    let store : Store Rat :=
      { bars :=
          { rows :=
              [(seedBar 0 10).toRow 9000 ⟨"BTC", "1h", "tradingview"⟩,
               (seedBar 0 10).toRow 9000 ⟨"BTC", "1h", "yahoo"⟩]
            unique := by decide }
        cacheMeta := Table.empty }
    (auditIntegrity store).problems = [⟨"BTC/1h", .extras, 1⟩] := by
  decide +kernel

/-- The first and the third hour of one provider, and the first of another one. -/
def repeatedAndMissing : Store Rat where
  bars :=
    { rows :=
        [(seedBar 0 10).toRow 9000 ⟨"BTC", "1h", "tradingview"⟩,
         (seedBar 7200 10).toRow 9000 ⟨"BTC", "1h", "tradingview"⟩,
         (seedBar 0 10).toRow 9000 ⟨"BTC", "1h", "yahoo"⟩]
      unique := by decide }
  cacheMeta := Table.empty

/-- The bar of the second hour is missing from both providers, and the audit
counts the one they both have for it. -/
theorem missing_bar_not_reported :
    ¬ ((auditIntegrity repeatedAndMissing).problems = [] ↔ AllContiguous repeatedAndMissing) := by
  have healthy : (auditIntegrity repeatedAndMissing).problems = [] := by decide +kernel
  rintro ⟨whole, _⟩
  have contiguous := whole healthy ⟨"BTC", "1h", "tradingview"⟩ 3600 (by decide)
  rw [storedTimes_eq] at contiguous
  have times : bucketTimes repeatedAndMissing ⟨"BTC", "1h", "tradingview"⟩ = [0, 7200] := by
    decide +kernel
  rw [times] at contiguous
  have least : IsLeast { ts : Int | ts ∈ [0, 7200] } 0 := by
    constructor
    · simp
    · intro ts member
      rcases List.mem_cons.mp member with rfl | later
      · exact le_refl _
      · simp at later; omega
  have greatest : IsGreatest { ts : Int | ts ∈ [0, 7200] } 7200 := by
    constructor
    · simp
    · intro ts member
      simp at member
      omega
  have second := (contiguous 0 7200 least greatest 3600).mpr ⟨1, by decide, by decide⟩
  simp at second

end Example

end HybridDataSvc
