import HybridDataSvc.Cache.InsertBars

namespace HybridDataSvc

open Relational

/-!
# What `get_bars` can do

A call has four exits: the cold start, the append of new bars, the rewrite
after an overlap mismatch, and everything that ends without a write (a raise
on the way, or no new bar).  The three writing exits differ only in the frame
they hand to `_insert_bars`; `HandsOver` names that frame by what the call
read and was answered.  Results about `get_bars` start from `getBars_cases`
and `getBars_of_handsOver`, and never open the definition again.
-/

variable {F : Type} [PyFloat F]

/-- The writing exits of `get_bars`. -/
inductive WritePath
  | cold
  | append
  | mismatch
  deriving DecidableEq, Repr

/-- The frame that a call hands to `_insert_bars` on one of its paths. -/
inductive HandsOver (env : GetBarsEnv F) (symbol timeframe : String) (count : Int)
    (store : Store F) : WritePath -> DataFrame F -> Prop
  | cold {df : DataFrame F}
      (absent : getMeta store (defaultBucket symbol timeframe) = none)
      (fetched : env.fetch count = .ok df) :
      HandsOver env symbol timeframe count store .cold df
  | append {summary : MetaRow} {barSecs : Int} {rows : List (Bar F)}
      (warm : getMeta store (defaultBucket symbol timeframe) = some summary)
      (known : tfSeconds timeframe = .ok barSecs)
      (fetched : env.fetch (fetchCount env.now summary.lastBarTs barSecs count) =
        .ok (.ohlcv rows))
      (valid : validateOverlap store (defaultBucket symbol timeframe) summary.lastBarTs
        (.ohlcv rows) = .ok true)
      (someNew : rows.filter (fun bar => decide (summary.lastBarTs < bar.time)) ≠ []) :
      HandsOver env symbol timeframe count store .append
        (.ohlcv (rows.filter (fun bar => decide (summary.lastBarTs < bar.time))))
  | mismatch {summary : MetaRow} {barSecs : Int} {fresh full : DataFrame F}
      (warm : getMeta store (defaultBucket symbol timeframe) = some summary)
      (known : tfSeconds timeframe = .ok barSecs)
      (fetched : env.fetch (fetchCount env.now summary.lastBarTs barSecs count) = .ok fresh)
      (invalid : validateOverlap store (defaultBucket symbol timeframe) summary.lastBarTs
        fresh = .ok false)
      (refetched : env.refetch count = .ok full) :
      HandsOver env symbol timeframe count store .mismatch full

/-- A call on one of the writing paths is its insert followed by the read. -/
theorem getBars_of_handsOver {env : GetBarsEnv F} {symbol timeframe : String} {count : Int}
    {store : Store F} {path : WritePath} {df : DataFrame F}
    (handed : HandsOver env symbol timeframe count store path df) :
    exists fetches, getBars env symbol timeframe count store =
      insertAndRead env.insert df (defaultBucket symbol timeframe) count store fetches := by
  cases handed with
  | cold absent fetched =>
      refine ⟨[count], ?_⟩
      simp only [getBars, absent, fetched]
  | @append summary barSecs rows warm known fetched valid someNew =>
      have notEmpty := List.isEmpty_eq_false_iff.mpr someNew
      refine ⟨[fetchCount env.now summary.lastBarTs barSecs count], ?_⟩
      simp only [getBars, warm, known, fetched, valid, DataFrame.rows, notEmpty,
        Bool.false_eq_true, if_false]
  | @mismatch summary barSecs fresh full warm known fetched invalid refetched =>
      refine ⟨[fetchCount env.now summary.lastBarTs barSecs count, count], ?_⟩
      simp only [getBars, warm, known, fetched, invalid, refetched]

/-- The exits of `get_bars`: the store stays as it is and a returned frame was
read from it, or the call is on one of the writing paths. -/
theorem getBars_exits (env : GetBarsEnv F) (symbol timeframe : String) (count : Int)
    (store : Store F) :
    ((getBars env symbol timeframe count store).store = store ∧
        (getBars env symbol timeframe count store).written = [] ∧
        forall df, (getBars env symbol timeframe count store).outcome = .ok df ->
          readBars store (defaultBucket symbol timeframe) count = .ok df) ∨
      exists path df, HandsOver env symbol timeframe count store path df := by
  cases cached : getMeta store (defaultBucket symbol timeframe) with
  | none =>
      cases fetched : env.fetch count with
      | error raised =>
          left
          simp only [getBars, cached, fetched, GetBarsResult.unwritten,
            reduceCtorEq, false_implies, implies_true, and_self]
      | ok df => exact Or.inr ⟨_, _, .cold cached fetched⟩
  | some summary =>
      cases known : tfSeconds timeframe with
      | error raised =>
          left
          simp only [getBars, cached, known, GetBarsResult.unwritten, reduceCtorEq,
            false_implies, implies_true, and_self]
      | ok barSecs =>
          cases fetched : env.fetch (fetchCount env.now summary.lastBarTs barSecs count) with
          | error raised =>
              left
              simp only [getBars, cached, known, fetched, GetBarsResult.unwritten, reduceCtorEq,
                false_implies, implies_true, and_self]
          | ok fresh =>
              cases verdict : validateOverlap store (defaultBucket symbol timeframe)
                  summary.lastBarTs fresh with
              | error raised =>
                  left
                  simp only [getBars, cached, known, fetched, verdict, GetBarsResult.unwritten,
                    reduceCtorEq, false_implies, implies_true, and_self]
              | ok valid =>
                  cases valid with
                  | false =>
                      cases refetched : env.refetch count with
                      | error raised =>
                          left
                          simp only [getBars, cached, known, fetched, verdict, refetched,
                            GetBarsResult.unwritten, reduceCtorEq, false_implies, implies_true,
                            and_self]
                      | ok full =>
                          exact Or.inr ⟨_, _, .mismatch cached known fetched verdict refetched⟩
                  | true =>
                      cases fresh with
                      | noColumns => cases verdict
                      | ohlcv rows =>
                          by_cases none_new :
                              rows.filter (fun bar => decide (summary.lastBarTs < bar.time)) = []
                          · left
                            simp only [getBars, cached, known, fetched, verdict, DataFrame.rows,
                              none_new, List.isEmpty_nil, if_true, GetBarsResult.unwritten,
                              imp_self, implies_true, and_self]
                          · exact Or.inr ⟨_, _, .append cached known fetched verdict none_new⟩

/-- The inversion of `get_bars`: the store stays as it is, or the call is on
one of the writing paths. -/
theorem getBars_cases (env : GetBarsEnv F) (symbol timeframe : String) (count : Int)
    (store : Store F) :
    ((getBars env symbol timeframe count store).store = store ∧
        (getBars env symbol timeframe count store).written = []) ∨
      exists path df, HandsOver env symbol timeframe count store path df := by
  rcases getBars_exits env symbol timeframe count store with ⟨kept, unwritten, -⟩ | handed
  · exact Or.inl ⟨kept, unwritten⟩
  · exact Or.inr handed

/-- What a call leaves behind: nothing, or one accepted batch of the frame
it handed over. -/
theorem getBars_store_cases (env : GetBarsEnv F) (symbol timeframe : String) (count : Int)
    (store : Store F) :
    ((getBars env symbol timeframe count store).store = store ∧
        (getBars env symbol timeframe count store).written = []) ∨
      exists path df barSecs closed,
        HandsOver env symbol timeframe count store path df ∧
        AcceptedBatch env.insert.now df (defaultBucket symbol timeframe) store barSecs closed ∧
        env.insert.commits = true ∧
        (getBars env symbol timeframe count store).store =
          commitRows env.insert.now (defaultBucket symbol timeframe) closed store ∧
        (getBars env symbol timeframe count store).written =
          closed.map (Bar.toRow env.insert.now (defaultBucket symbol timeframe)) := by
  rcases getBars_cases env symbol timeframe count store with unchanged | ⟨path, df, handed⟩
  · exact Or.inl unchanged
  · rcases getBars_of_handsOver handed with ⟨fetches, result⟩
    rw [result]
    rcases insertBars_cases env.insert df (defaultBucket symbol timeframe) store with
      unchanged | ⟨barSecs, closed, accepted, commits, inserted⟩
    · exact Or.inl unchanged
    · refine Or.inr ⟨path, df, barSecs, closed, handed, accepted, commits, ?_, ?_⟩
      · simp only [insertAndRead, inserted]
      · simp only [insertAndRead, inserted]

/-- The frame a call returns is what it reads from the store it leaves. -/
theorem getBars_reads {env : GetBarsEnv F} {symbol timeframe : String} {count : Int}
    {store : Store F} {df : DataFrame F}
    (returned : (getBars env symbol timeframe count store).outcome = .ok df) :
    readBars (getBars env symbol timeframe count store).store (defaultBucket symbol timeframe)
      count = .ok df := by
  have inserted : forall frame fetches,
      (insertAndRead env.insert frame (defaultBucket symbol timeframe) count store
        fetches).outcome = .ok df ->
      readBars (insertAndRead env.insert frame (defaultBucket symbol timeframe) count store
        fetches).store (defaultBucket symbol timeframe) count = .ok df := by
    intro frame fetches result
    cases outcome :
        (insertBars env.insert frame (defaultBucket symbol timeframe) store).outcome with
    | error raised =>
        simp only [insertAndRead, outcome, reduceCtorEq] at result
    | ok done =>
        simp only [insertAndRead, outcome] at result
        exact result
  rcases getBars_exits env symbol timeframe count store with
    ⟨unchanged, -, reads⟩ | ⟨path, frame, handed⟩
  · rw [unchanged]
    exact reads df returned
  · rcases getBars_of_handsOver handed with ⟨fetches, result⟩
    rw [result] at returned ⊢
    exact inserted frame fetches returned

/-- The rows a call commits, given the frame it hands over. -/
theorem getBars_written_of_handsOver {env : GetBarsEnv F} {symbol timeframe : String}
    {count : Int} {store : Store F} {path : WritePath} {df : DataFrame F}
    (handed : HandsOver env symbol timeframe count store path df) :
    (getBars env symbol timeframe count store).written =
      (insertBars env.insert df (defaultBucket symbol timeframe) store).written := by
  rcases getBars_of_handsOver handed with ⟨fetches, result⟩
  rw [result]
  rfl

/-- What a call hands over is determined by what it read and was answered. -/
theorem HandsOver.unique {env : GetBarsEnv F} {symbol timeframe : String} {count : Int}
    {store : Store F} {path other : WritePath} {df otherDf : DataFrame F}
    (handed : HandsOver env symbol timeframe count store path df)
    (again : HandsOver env symbol timeframe count store other otherDf) :
    other = path ∧ otherDf = df := by
  cases handed with
  | cold absent fetched =>
      cases again with
      | cold _ fetchedAgain =>
          have same := Except.ok.inj (fetchedAgain.symm.trans fetched)
          exact ⟨rfl, same⟩
      | append warm _ _ _ _ =>
          rw [absent] at warm
          cases warm
      | mismatch warm _ _ _ _ =>
          rw [absent] at warm
          cases warm
  | append warm known fetched valid someNew =>
      cases again with
      | cold absent _ =>
          rw [warm] at absent
          cases absent
      | append warmAgain knownAgain fetchedAgain _ _ =>
          have sameSummary := Option.some_inj.mp (warmAgain.symm.trans warm)
          have sameSecs := Except.ok.inj (knownAgain.symm.trans known)
          subst sameSummary sameSecs
          have same := Except.ok.inj (fetchedAgain.symm.trans fetched)
          cases same
          exact ⟨rfl, rfl⟩
      | mismatch warmAgain knownAgain fetchedAgain invalid _ =>
          have sameSummary := Option.some_inj.mp (warmAgain.symm.trans warm)
          have sameSecs := Except.ok.inj (knownAgain.symm.trans known)
          subst sameSummary sameSecs
          have same := Except.ok.inj (fetchedAgain.symm.trans fetched)
          subst same
          rw [valid] at invalid
          cases invalid
  | mismatch warm known fetched invalid refetched =>
      cases again with
      | cold absent _ =>
          rw [warm] at absent
          cases absent
      | append warmAgain knownAgain fetchedAgain valid _ =>
          have sameSummary := Option.some_inj.mp (warmAgain.symm.trans warm)
          have sameSecs := Except.ok.inj (knownAgain.symm.trans known)
          subst sameSummary sameSecs
          have same := Except.ok.inj (fetchedAgain.symm.trans fetched)
          subst same
          rw [valid] at invalid
          cases invalid
      | mismatch _ _ _ _ refetchedAgain =>
          have same := Except.ok.inj (refetchedAgain.symm.trans refetched)
          exact ⟨rfl, same⟩

end HybridDataSvc
