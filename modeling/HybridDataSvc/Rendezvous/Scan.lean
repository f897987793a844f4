import Mathlib.Data.List.Sort

namespace Rendezvous

universe u v

/-!
# Parties that look for one address

A party may remember an address.  It tries that first.  If nobody answers
there, it tries its ports one after the other at its home, prefers the
remembered port among those that answer, takes the lowest one otherwise, and
records what it has found.

Two parties that share the record are to find the same address without
talking to each other.  `always_agree_iff` says when they do, whoever answers.
-/

structure Party (Host : Type u) (Port : Type v) [LinearOrder Port] where
  home : Host
  remembered : Option (Host × Port)
  ports : List Port
  ascending : ports.Pairwise (fun p q => p < q)
  nonempty : ports ≠ []

/-- What comes of a search. -/
inductive Finding (Host : Type u) (Port : Type v)
  | kept (address : Host × Port)
  | recorded (address : Host × Port)
  | nothing
  deriving DecidableEq, Repr

namespace Finding

variable {Host : Type u} {Port : Type v}

def address : Finding Host Port -> Option (Host × Port)
  | .kept address => some address
  | .recorded address => some address
  | .nothing => none

theorem address_eq_none_iff (finding : Finding Host Port) :
    finding.address = none ↔ finding = .nothing := by
  cases finding with
  | kept a => simp [address]
  | recorded a => simp [address]
  | nothing => simp [address]

/-- The record afterwards. -/
def record (held : Option (Host × Port)) : Finding Host Port -> Option (Host × Port)
  | .recorded address => some address
  | _ => held

/-- The same address is found and left in the record. -/
def Agree (held : Option (Host × Port)) (a b : Finding Host Port) : Prop :=
  a.address = b.address ∧ a.record held = b.record held

theorem Agree.symm {held : Option (Host × Port)} {a b : Finding Host Port} (agree : Agree held a b) :
    Agree held b a := ⟨agree.1.symm, agree.2.symm⟩

end Finding

variable {Host : Type u} {Port : Type v} [LinearOrder Port]

/-- Of the ports that answer the wanted one, or else the lowest. -/
def choose (wanted : Option Port) (answering : List Port) : Option Port :=
  match wanted with
  | some p => if answering.contains p then some p else answering.head?
  | none => answering.head?

theorem choose_of_not_mem {wanted : Option Port} {answering : List Port}
    (absent : forall p, wanted = some p -> p ∉ answering) :
    choose wanted answering = answering.head? := by
  cases wanted with
  | none => rfl
  | some p => exact if_neg (fun here => absent p rfl (List.contains_iff_mem.mp here))

theorem choose_eq_none_iff (wanted : Option Port) (answering : List Port) :
    choose wanted answering = none ↔ answering = [] := by
  cases wanted with
  | none => exact List.head?_eq_none_iff
  | some p =>
      unfold choose
      by_cases here : answering.contains p = true
      · simp only [if_pos here, reduceCtorEq, false_iff]
        exact List.ne_nil_of_mem (List.contains_iff_mem.mp here)
      · simp only [if_neg here]
        exact List.head?_eq_none_iff

namespace Party

/-- The ports at home that answer. -/
def answering (party : Party Host Port) (world : Host -> Port -> Bool) : List Port :=
  party.ports.filter (world party.home)

/-- The search at home. -/
def search (party : Party Host Port) (world : Host -> Port -> Bool) : Finding Host Port :=
  match choose (party.remembered.map (fun a => a.2)) (party.answering world) with
  | some p => .recorded (party.home, p)
  | none => .nothing

/-- The whole search. -/
def look (party : Party Host Port) (world : Host -> Port -> Bool) : Finding Host Port :=
  match party.remembered with
  | some address => if world address.1 address.2 then .kept address else party.search world
  | none => party.search world

variable {party s t : Party Host Port} {world : Host -> Port -> Bool}

theorem look_of_answer {address : Host × Port} (known : party.remembered = some address)
    (answers : world address.1 address.2 = true) : party.look world = .kept address := by
  unfold look
  rw [known]
  exact if_pos answers

theorem look_of_silence
    (silent : forall a, party.remembered = some a -> world a.1 a.2 = false) :
    party.look world = party.search world := by
  unfold look
  cases known : party.remembered with
  | none => rfl
  | some address =>
      have quiet := silent address known
      simp [quiet]

theorem search_eq_nothing_iff :
    party.search world = .nothing ↔
      forall p, p ∈ party.ports -> world party.home p = false := by
  have empty : party.answering world = [] ↔
      forall p, p ∈ party.ports -> world party.home p = false := by
    unfold answering
    simp [List.filter_eq_nil_iff]
  rw [← empty, ← choose_eq_none_iff (party.remembered.map (fun a => a.2))]
  unfold search
  cases choose (party.remembered.map (fun a => a.2)) (party.answering world) with
  | none => simp
  | some p => simp

/-- What a search at home finds it records. -/
theorem search_eq_of_address {address : Host × Port}
    (found : (party.search world).address = some address) :
    party.search world = .recorded address ∧ address.1 = party.home := by
  unfold search at found ⊢
  cases chosen : choose (party.remembered.map (fun a => a.2)) (party.answering world) with
  | none =>
      rw [chosen] at found
      cases found
  | some p =>
      rw [chosen] at found
      cases found
      exact ⟨rfl, rfl⟩

theorem search_of_silence
    (silent : forall a, party.remembered = some a -> a.2 ∉ party.answering world) :
    party.search world =
      match (party.answering world).head? with
      | some p => .recorded (party.home, p)
      | none => .nothing := by
  unfold search
  rw [choose_of_not_mem]
  intro p known
  rw [Option.map_eq_some_iff] at known
  rcases known with ⟨address, remembered, rfl⟩
  exact silent address remembered

/-- Ports in order are determined by which of them answer. -/
theorem answering_eq_of_mem_iff (home : s.home = t.home)
    (same : forall p, world s.home p = true -> (p ∈ s.ports ↔ p ∈ t.ports)) :
    s.answering world = t.answering world := by
  have ordered := s.ascending.sublist (List.filter_sublist (p := world s.home))
  have ordered' := t.ascending.sublist (List.filter_sublist (p := world t.home))
  refine List.Pairwise.eq_of_mem_iff ordered ordered' (fun p => ?_)
  unfold answering
  rw [List.mem_filter, List.mem_filter, ← home]
  constructor
  · rintro ⟨listed, answers⟩
    exact ⟨(same p answers).mp listed, answers⟩
  · rintro ⟨listed, answers⟩
    exact ⟨(same p answers).mpr listed, answers⟩

end Party

/-! ## When two parties agree -/

/-- They remember the same, and know the same ports; the port of a remembered
address at home does not count. -/
def SameMemory (s t : Party Host Port) : Prop :=
  s.remembered = t.remembered ∧
    forall p, s.remembered ≠ some (s.home, p) -> (p ∈ s.ports ↔ p ∈ t.ports)

/-- Only the second one remembers, and it is what the record holds and what
the first one tries before all others. -/
def OnlySecond (held : Option (Host × Port)) (s t : Party Host Port) : Prop :=
  s.remembered = none ∧ exists p, t.remembered = some (s.home, p) ∧ s.ports.head? = some p ∧
    held = some (s.home, p) ∧ forall q, q ≠ p -> (q ∈ s.ports ↔ q ∈ t.ports)

def Alike (held : Option (Host × Port)) (s t : Party Host Port) : Prop :=
  s.home = t.home ∧ (SameMemory s t ∨ OnlySecond held s t ∨ OnlySecond held t s)

variable {held : Option (Host × Port)} {s t : Party Host Port}

theorem look_eq_of_sameMemory (home : s.home = t.home) (same : SameMemory s t)
    (world : Host -> Port -> Bool) : s.look world = t.look world := by
  rcases same with ⟨memory, ports⟩
  by_cases answers : exists a, s.remembered = some a ∧ world a.1 a.2 = true
  · rcases answers with ⟨a, known, here⟩
    rw [Party.look_of_answer known here, Party.look_of_answer (memory ▸ known) here]
  · have silent : forall a, s.remembered = some a -> world a.1 a.2 = false := by
      intro a known
      cases here : world a.1 a.2 with
      | false => rfl
      | true => exact absurd ⟨a, known, here⟩ answers
    have listed : s.answering world = t.answering world := by
      refine Party.answering_eq_of_mem_iff home (fun p here => ports p ?_)
      intro known
      rw [silent _ known] at here
      cases here
    rw [Party.look_of_silence silent, Party.look_of_silence (memory ▸ silent)]
    unfold Party.search
    rw [memory, listed, home]

theorem agree_of_onlySecond (home : s.home = t.home) (only : OnlySecond held s t)
    (world : Host -> Port -> Bool) : Finding.Agree held (s.look world) (t.look world) := by
  rcases only with ⟨forgotten, p, known, first, kept, ports⟩
  have searched : s.look world = s.search world :=
    Party.look_of_silence (fun a remembered => by rw [forgotten] at remembered; cases remembered)
  have lowest : s.search world =
      match (s.answering world).head? with
      | some p => .recorded (s.home, p)
      | none => .nothing := by
    refine Party.search_of_silence (fun a remembered => ?_)
    rw [forgotten] at remembered
    cases remembered
  cases answers : world s.home p with
  | true =>
      have chosen : (s.answering world).head? = some p := by
        rcases List.head?_eq_some_iff.mp first with ⟨rest, split⟩
        unfold Party.answering
        rw [split, List.filter_cons_of_pos answers]
        rfl
      rw [chosen] at lowest
      rw [searched, lowest, Party.look_of_answer known answers]
      exact ⟨rfl, kept.symm⟩
  | false =>
      have listed : s.answering world = t.answering world := by
        refine Party.answering_eq_of_mem_iff home (fun q here => ports q ?_)
        rintro rfl
        rw [answers] at here
        cases here
      have silent : forall a, t.remembered = some a -> world a.1 a.2 = false := by
        intro a remembered
        rw [known] at remembered
        cases remembered
        exact answers
      have absent : forall a, t.remembered = some a -> a.2 ∉ t.answering world := by
        intro a remembered here
        rw [known] at remembered
        cases remembered
        have answer := (List.mem_filter.mp here).2
        rw [← home, answers] at answer
        cases answer
      rw [searched, lowest, Party.look_of_silence silent, Party.search_of_silence absent, listed,
        home]
      exact ⟨rfl, rfl⟩

/-! ### Worlds that tell them apart -/

section Worlds

variable [DecidableEq Host]

/-- Every port of a host answers. -/
def onHost (host : Host) : Host -> Port -> Bool := fun h _ => decide (h = host)

/-- One address answers. -/
def onlyAt (address : Host × Port) : Host -> Port -> Bool := fun h p => decide ((h, p) = address)

theorem onlyAt_self (address : Host × Port) : onlyAt address address.1 address.2 = true :=
  decide_eq_true rfl

theorem onlyAt_of_ne {address other : Host × Port} (different : other ≠ address) :
    onlyAt address other.1 other.2 = false := decide_eq_false different

theorem exists_address_onHost_home (party : Party Host Port) :
    exists p, (party.look (onHost party.home)).address = some (party.home, p) := by
  have searched : exists p, (party.search (onHost party.home)).address = some (party.home, p) := by
    cases found : (party.search (onHost party.home)).address with
    | none =>
        have silent := (Finding.address_eq_none_iff _).mp found
        rcases List.exists_mem_of_ne_nil _ party.nonempty with ⟨p, listed⟩
        have quiet := Party.search_eq_nothing_iff.mp silent p listed
        cases quiet.symm.trans (decide_eq_true rfl)
    | some a =>
        rcases Party.search_eq_of_address found with ⟨-, home⟩
        rcases a with ⟨h, p⟩
        cases home
        exact ⟨p, rfl⟩
  by_cases answers : exists a, party.remembered = some a ∧ a.1 = party.home
  · rcases answers with ⟨⟨h, p⟩, known, rfl⟩
    rw [Party.look_of_answer known (decide_eq_true rfl)]
    exact ⟨p, rfl⟩
  · rw [Party.look_of_silence]
    · exact searched
    · exact fun a known => decide_eq_false (fun home => answers ⟨a, known, home⟩)

/-- A party that finds something on a host that is not its home remembers it. -/
theorem kept_of_away {party : Party Host Port} {host : Host} {address : Host × Port}
    (away : party.home ≠ host) (found : (party.look (onHost host)).address = some address) :
    party.remembered = some address ∧ party.look (onHost host) = .kept address := by
  have silent : party.search (onHost host) = .nothing :=
    Party.search_eq_nothing_iff.mpr (fun p _ => decide_eq_false away)
  by_cases answers : exists a, party.remembered = some a ∧ a.1 = host
  · rcases answers with ⟨a, known, here⟩
    rw [Party.look_of_answer known (decide_eq_true here)] at found ⊢
    cases found
    exact ⟨known, rfl⟩
  · rw [Party.look_of_silence
      (fun a known => decide_eq_false (fun home => answers ⟨a, known, home⟩)), silent] at found
    cases found

/-- On the home of the first one, the second one must remember what the first
one records. -/
theorem held_of_homes_ne (agree : forall world, Finding.Agree held (s.look world) (t.look world))
    (different : s.home ≠ t.home) : exists p, t.remembered = some (s.home, p) ∧
      ((forall a, s.remembered = some a -> a.1 ≠ s.home) -> held = some (s.home, p)) := by
  rcases exists_address_onHost_home s with ⟨p, found⟩
  have both := agree (onHost s.home)
  have found' := found
  rw [both.1] at found'
  rcases kept_of_away (Ne.symm different) found' with ⟨known, kept⟩
  refine ⟨p, known, fun elsewhere => ?_⟩
  have searched : s.look (onHost s.home) = s.search (onHost s.home) :=
    Party.look_of_silence (fun a remembered => decide_eq_false (elsewhere a remembered))
  rw [searched] at found
  have record := both.2
  rw [searched, (Party.search_eq_of_address found).1, kept] at record
  exact record.symm

theorem home_eq_of_agree
    (agree : forall world, Finding.Agree held (s.look world) (t.look world)) :
    s.home = t.home := by
  by_contra different
  rcases held_of_homes_ne agree different with ⟨p, known, held_s⟩
  rcases held_of_homes_ne (fun world => (agree world).symm)
    (Ne.symm different) with ⟨q, known', held_t⟩
  have first := held_s (fun a remembered home => by
    rw [known'] at remembered
    cases remembered
    exact different home.symm)
  have second := held_t (fun a remembered home => by
    rw [known] at remembered
    cases remembered
    exact different home)
  rw [first] at second
  exact different (Prod.ext_iff.mp (Option.some.inj second)).1

/-- A party to which a remembered address is silent finds it at home, if at
all, and then records it. -/
theorem recorded_of_forgotten {party : Party Host Port} {address : Host × Port}
    (forgotten : party.remembered ≠ some address)
    (found : (party.look (onlyAt address)).address = some address) :
    party.look (onlyAt address) = .recorded address ∧ address.1 = party.home := by
  have searched : party.look (onlyAt address) = party.search (onlyAt address) := by
    refine Party.look_of_silence (fun a known => onlyAt_of_ne ?_)
    rintro rfl
    exact forgotten known
  rw [searched] at found ⊢
  exact Party.search_eq_of_address found

/-- What one party remembers and the other one does not is in the record. -/
theorem held_of_forgotten {address : Host × Port}
    (agree : forall world, Finding.Agree held (s.look world) (t.look world))
    (known : t.remembered = some address) (forgotten : s.remembered ≠ some address) :
    held = some address ∧ address.1 = s.home := by
  have both := agree (onlyAt address)
  rw [Party.look_of_answer known (onlyAt_self address)] at both
  rcases recorded_of_forgotten forgotten both.1 with ⟨recorded, home⟩
  have record := both.2
  rw [recorded] at record
  exact ⟨record.symm, home⟩

/-- A port that neither remembers for its home is known to both or to none. -/
theorem mem_iff_of_agree (home : s.home = t.home)
    (agree : forall world, Finding.Agree held (s.look world) (t.look world)) {p : Port}
    (forgotten : s.remembered ≠ some (s.home, p)) (forgotten' : t.remembered ≠ some (s.home, p)) :
    p ∈ s.ports ↔ p ∈ t.ports := by
  have both := (agree (onlyAt (s.home, p))).1
  have listed : forall party : Party Host Port, party.home = s.home ->
      party.remembered ≠ some (s.home, p) ->
      ((party.look (onlyAt (s.home, p))).address = none ↔ p ∉ party.ports) := by
    intro party same absent
    have searched : party.look (onlyAt (s.home, p)) = party.search (onlyAt (s.home, p)) := by
      refine Party.look_of_silence (fun a known => onlyAt_of_ne ?_)
      rintro rfl
      exact absent known
    rw [searched, Finding.address_eq_none_iff, Party.search_eq_nothing_iff, same]
    constructor
    · intro silent here
      cases (silent p here).symm.trans (onlyAt_self (s.home, p))
    · intro absent q here
      apply decide_eq_false
      rintro ⟨⟩
      exact absent here
  have first := listed s rfl forgotten
  have second := listed t home.symm forgotten'
  rw [both] at first
  exact not_iff_not.mp (first.symm.trans second)

theorem onlySecond_of_agree (home : s.home = t.home)
    (agree : forall world, Finding.Agree held (s.look world) (t.look world))
    (forgotten : s.remembered = none) {address : Host × Port}
    (known : t.remembered = some address) : OnlySecond held s t := by
  have absent : forall a, s.remembered ≠ some a := fun a => by
    rw [forgotten]
    exact nofun
  rcases held_of_forgotten agree known (absent address) with ⟨kept, same⟩
  rcases address with ⟨h, p⟩
  cases same
  refine ⟨forgotten, p, known, ?_, kept, fun q different => ?_⟩
  · -- everybody answers
    have both := (agree (fun _ _ => true)).1
    have silent : forall a, s.remembered = some a -> (true : Bool) = false :=
      fun a remembered => absurd remembered (absent a)
    rw [Party.look_of_answer known rfl, Party.look_of_silence silent,
      Party.search_of_silence (fun a remembered => absurd remembered (absent a))] at both
    have everything : s.answering (fun _ _ => true) = s.ports := List.filter_true _
    rw [everything] at both
    cases first : s.ports.head? with
    | none =>
        rw [first] at both
        cases both
    | some q =>
        rw [first] at both
        cases both
        rfl
  · apply mem_iff_of_agree home agree (absent _)
    rw [known]
    rintro ⟨⟩
    exact different rfl

/-- Two parties agree in every world exactly if they are alike. -/
theorem always_agree_iff :
    (forall world, Finding.Agree held (s.look world) (t.look world)) ↔ Alike held s t := by
  constructor
  · intro agree
    have home := home_eq_of_agree agree
    refine ⟨home, ?_⟩
    cases known : s.remembered with
    | none =>
        cases known' : t.remembered with
        | none =>
            refine Or.inl ⟨known.trans known'.symm, fun p absent => ?_⟩
            apply mem_iff_of_agree home agree absent
            rw [known']
            exact nofun
        | some a => exact Or.inr (Or.inl (onlySecond_of_agree home agree known known'))
    | some a =>
        cases known' : t.remembered with
        | none =>
            exact Or.inr (Or.inr
              (onlySecond_of_agree home.symm (fun world => (agree world).symm) known' known))
        | some b =>
            by_cases same : a = b
            · subst same
              refine Or.inl ⟨known.trans known'.symm, fun p absent => ?_⟩
              exact mem_iff_of_agree home agree absent (by rwa [known', ← known])
            · -- each is in the record
              have first := held_of_forgotten agree known' (by
                rw [known]
                exact fun equal => same (Option.some.inj equal))
              have second := held_of_forgotten (fun world => (agree world).symm) known (by
                rw [known']
                exact fun equal => same (Option.some.inj equal).symm)
              rw [first.1] at second
              exact absurd (Option.some.inj second.1).symm same
  · rintro ⟨home, same | only | only⟩ world
    · rw [look_eq_of_sameMemory home same world]
      exact ⟨rfl, rfl⟩
    · exact agree_of_onlySecond home only world
    · exact (agree_of_onlySecond home.symm only world).symm

end Worlds

end Rendezvous
