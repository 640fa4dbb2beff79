import Mathlib.Data.List.Basic
import QueryGroup.Pattern.Basic
set_option autoImplicit false

namespace QueryGroup.Pattern

/-- Which texts may be matched between a text in front and one behind. -/
abbrev Reading := List Char → List Char → List Char → Prop

namespace Reading

def nothing : Reading := fun _ matched _ => matched = []

def andThen (first second : Reading) : Reading := fun front matched back =>
  ∃ start rest, matched = start ++ rest ∧ first front start (rest ++ back) ∧
    second (front ++ start) rest back

def orElse (first second : Reading) : Reading := fun front matched back =>
  first front matched back ∨ second front matched back

def rounds (reading : Reading) : Nat → Reading
  | 0 => nothing
  | count + 1 => reading.andThen (reading.rounds count)

end Reading

/-- The place between two texts. -/
def Place.between (front back : List Char) : Place := ⟨front.length, front.getLast?, back⟩

mutual

/-- What a pattern matches. A repetition that allows fewer rounds than it requires has those. -/
def reading : Pattern → Reading
  | empty => .nothing
  | text characters => fun _ matched _ => matched = characters
  | oneOf _ set => fun _ matched _ => ∃ c, set.holds c = true ∧ matched = [c]
  | look condition => fun front matched back =>
      matched = [] ∧ condition.holds (.between front back) = true
  | repeated least most _ inner => fun front matched back =>
      ∃ count, least ≤ count ∧ (∀ greatest ∈ most, count ≤ max least greatest) ∧
        inner.reading.rounds count front matched back
  | group _ inner => inner.reading
  | sequence items => readingInTurn items
  | choice branches => readingOfAny branches

def readingInTurn : List Pattern → Reading
  | [] => .nothing
  | item :: rest => item.reading.andThen (readingInTurn rest)

def readingOfAny : List Pattern → Reading
  | [] => fun _ _ _ => False
  | branch :: rest => branch.reading.orElse (readingOfAny rest)

end

/-- The place stands in the text. -/
def Place.IsIn (text : List Char) (place : Place) : Prop :=
  ∃ front back, front ++ back = text ∧ place = .between front back

/-- What is read in the text from the one place on may end at the other. -/
def Reading.Leads (reading : Reading) (text : List Char) (first last : Place) : Prop :=
  ∃ front matched back, front ++ (matched ++ back) = text ∧
    first = .between front (matched ++ back) ∧ last = .between (front ++ matched) back ∧
      reading front matched back

namespace Place

variable {text : List Char} {place other : Place}

theorem IsIn.eq_of_index (inside : place.IsIn text) (inside' : other.IsIn text)
    (same : place.index = other.index) : place = other := by
  obtain ⟨front, back, whole, rfl⟩ := inside
  obtain ⟨front', back', whole', rfl⟩ := inside'
  obtain ⟨rfl, rfl⟩ := List.append_inj (whole.trans whole'.symm) same
  rfl

theorem mem_onward_iff {front rest : List Char} :
    place ∈ onward front.length front.getLast? rest ↔
      ∃ passed back, passed ++ back = rest ∧ place = .between (front ++ passed) back := by
  induction rest generalizing front with
  | nil => simp [onward, between]
  | cons c rest ih =>
      have later := @ih (front ++ [c])
      simp only [List.length_append, List.length_singleton, List.getLast?_append,
        List.getLast?_singleton, Option.some_or, List.append_assoc, List.singleton_append] at later
      rw [onward, List.mem_cons, later]
      constructor
      · rintro (rfl | ⟨passed, back, rfl, rfl⟩)
        · exact ⟨[], c :: rest, rfl, by rw [List.append_nil, between]⟩
        · exact ⟨c :: passed, back, rfl, rfl⟩
      · rintro ⟨_ | ⟨d, passed⟩, back, whole, rfl⟩
        · obtain rfl : back = c :: rest := whole
          exact .inl (by rw [List.append_nil, between])
        · obtain ⟨rfl, rfl⟩ := List.cons.inj whole
          exact .inr ⟨passed, back, rfl, rfl⟩

theorem mem_onward_zero_iff : place ∈ onward 0 none text ↔ place.IsIn text :=
  @mem_onward_iff _ [] text

theorem next?_between_iff {kind : Char → Bool} {front rest : List Char} :
    (between front rest).next? kind = some place ↔
      ∃ c back, [c] ++ back = rest ∧ place = .between (front ++ [c]) back ∧ kind c = true := by
  cases rest with
  | nil => simp [between, next?]
  | cons c rest =>
      have step : (between front (c :: rest)).next? kind =
          if kind c then some (between (front ++ [c]) rest) else none := by
        simp [between, next?]
      rw [step, Option.ite_none_right_eq_some, Option.some.injEq]
      constructor
      · rintro ⟨isKind, rfl⟩
        exact ⟨c, rest, rfl, rfl, isKind⟩
      · rintro ⟨d, back, whole, rfl, isKind⟩
        obtain ⟨rfl, rfl⟩ := List.cons.inj whole
        exact ⟨isKind, rfl⟩

theorem behind?_between_iff {characters front rest : List Char} :
    behind? characters (between front rest) = some place ↔
      ∃ back, characters ++ back = rest ∧ place = .between (front ++ characters) back := by
  induction characters generalizing front rest with
  | nil =>
      rw [behind?, Option.some.injEq]
      constructor
      · rintro rfl
        exact ⟨rest, rfl, by rw [List.append_nil]⟩
      · rintro ⟨back, rfl, rfl⟩
        rw [List.append_nil, List.nil_append]
  | cons c characters ih =>
      rw [behind?, Option.bind_eq_some_iff]
      constructor
      · rintro ⟨_, step, others⟩
        obtain ⟨d, _, rfl, rfl, same⟩ := next?_between_iff.1 step
        obtain rfl := beq_iff_eq.1 same
        obtain ⟨back, rfl, rfl⟩ := ih.1 others
        exact ⟨back, rfl, by rw [List.append_assoc, List.singleton_append]⟩
      · rintro ⟨back, rfl, rfl⟩
        exact ⟨_, next?_between_iff.2 ⟨c, characters ++ back, rfl, rfl, beq_self_eq_true c⟩,
          ih.2 ⟨back, rfl, by rw [List.append_assoc, List.singleton_append]⟩⟩

end Place

namespace Reading

variable {reading first second : Reading} {text : List Char} {start finish : Place}

theorem Leads.isIn_left (leads : reading.Leads text start finish) : start.IsIn text := by
  obtain ⟨front, matched, back, whole, rfl, -, -⟩ := leads
  exact ⟨front, matched ++ back, whole, rfl⟩

theorem Leads.isIn_right (leads : reading.Leads text start finish) : finish.IsIn text := by
  obtain ⟨front, matched, back, whole, -, rfl, -⟩ := leads
  exact ⟨front ++ matched, back, by rw [List.append_assoc, whole], rfl⟩

/-- Reading stays at a place or goes onward. -/
theorem Leads.eq_or_lt (leads : reading.Leads text start finish) :
    finish = start ∨ finish.rest.length < start.rest.length := by
  obtain ⟨front, matched, back, -, rfl, rfl, -⟩ := leads
  cases matched with
  | nil => exact .inl (by rw [List.append_nil, List.nil_append])
  | cons c matched =>
      refine .inr ?_
      simp only [Place.between, List.cons_append, List.length_cons, List.length_append]
      omega

theorem leads_between_iff {front rest : List Char} (whole : front ++ rest = text) :
    reading.Leads text (.between front rest) finish ↔
      ∃ matched back, matched ++ back = rest ∧ finish = .between (front ++ matched) back ∧
        reading front matched back := by
  constructor
  · rintro ⟨front', matched, back, whole', same, rfl, read⟩
    obtain rfl : rest = matched ++ back := congrArg Place.rest same
    obtain rfl := List.append_cancel_right (whole.trans whole'.symm)
    exact ⟨matched, back, rfl, rfl, read⟩
  · rintro ⟨matched, back, rfl, rfl, read⟩
    exact ⟨front, matched, back, whole, rfl, rfl, read⟩

theorem leads_nothing_iff (inside : start.IsIn text) :
    nothing.Leads text start finish ↔ finish = start := by
  constructor
  · rintro ⟨front, matched, back, -, rfl, rfl, rfl⟩
    rw [List.append_nil, List.nil_append]
  · rintro rfl
    obtain ⟨front, back, whole, rfl⟩ := inside
    exact ⟨front, [], back, whole, rfl, by rw [List.append_nil], rfl⟩

theorem leads_andThen_iff :
    (first.andThen second).Leads text start finish ↔
      ∃ between, first.Leads text start between ∧ second.Leads text between finish := by
  constructor
  · rintro ⟨front, _, back, whole, rfl, rfl, opening, rest, rfl, before, behind⟩
    rw [List.append_assoc] at whole
    refine ⟨.between (front ++ opening) (rest ++ back),
      ⟨front, opening, rest ++ back, whole, by rw [List.append_assoc], rfl, before⟩,
      ⟨front ++ opening, rest, back, by rw [List.append_assoc, whole], rfl, by
        rw [List.append_assoc], behind⟩⟩
  · rintro ⟨_, ⟨front, opening, back, whole, rfl, rfl, before⟩,
      ⟨front', rest, back', whole', same, rfl, behind⟩⟩
    obtain rfl : back = rest ++ back' := congrArg Place.rest same
    obtain rfl : front ++ opening = front' := by
      rw [← List.append_assoc] at whole
      exact List.append_cancel_right (whole.trans whole'.symm)
    exact ⟨front, opening ++ rest, back', by rw [List.append_assoc, whole],
      by rw [List.append_assoc], by rw [List.append_assoc], opening, rest, rfl, before, behind⟩

theorem leads_rounds_succ_iff {count : Nat} :
    (reading.rounds (count + 1)).Leads text start finish ↔
      ∃ between, reading.Leads text start between ∧
        (reading.rounds count).Leads text between finish :=
  leads_andThen_iff

theorem leads_rounds_add_iff (count more : Nat) :
    (reading.rounds (count + more)).Leads text start finish ↔
      ∃ between, (reading.rounds count).Leads text start between ∧
        (reading.rounds more).Leads text between finish := by
  induction count generalizing start with
  | zero =>
      rw [Nat.zero_add]
      constructor
      · intro leads
        exact ⟨start, (leads_nothing_iff leads.isIn_left).2 rfl, leads⟩
      · rintro ⟨between, still, leads⟩
        obtain rfl := (leads_nothing_iff still.isIn_left).1 still
        exact leads
  | succ count ih =>
      rw [Nat.succ_add, leads_rounds_succ_iff]
      constructor
      · rintro ⟨next, step, leads⟩
        obtain ⟨between, front, back⟩ := ih.1 leads
        exact ⟨between, leads_rounds_succ_iff.2 ⟨next, step, front⟩, back⟩
      · rintro ⟨between, front, back⟩
        obtain ⟨next, step, front⟩ := leads_rounds_succ_iff.1 front
        exact ⟨next, step, ih.2 ⟨between, front, back⟩⟩

/-- With more rounds than characters some round stays where it is, so it may be left out. -/
theorem Leads.fewer {count : Nat} (short : start.rest.length ≤ count)
    (leads : (reading.rounds (count + 1)).Leads text start finish) :
    (reading.rounds count).Leads text start finish := by
  induction count generalizing start with
  | zero =>
      obtain ⟨next, step, still⟩ := leads_rounds_succ_iff.1 leads
      rcases step.eq_or_lt with rfl | onward
      · exact still
      · omega
  | succ count ih =>
      obtain ⟨next, step, others⟩ := leads_rounds_succ_iff.1 leads
      rcases step.eq_or_lt with rfl | onward
      · exact others
      · exact leads_rounds_succ_iff.2 ⟨next, step, ih (by omega) others⟩

/-- It may as well be made once more. -/
theorem Leads.more {count : Nat} (short : start.rest.length < count)
    (leads : (reading.rounds count).Leads text start finish) :
    (reading.rounds (count + 1)).Leads text start finish := by
  induction count generalizing start with
  | zero => omega
  | succ count ih =>
      obtain ⟨next, step, others⟩ := leads_rounds_succ_iff.1 leads
      rcases step.eq_or_lt with rfl | onward
      · exact leads_rounds_succ_iff.2 ⟨next, step, leads⟩
      · exact leads_rounds_succ_iff.2 ⟨next, step, ih (by omega) others⟩

/-- So beyond that number it does not matter how many rounds there are. -/
theorem leads_rounds_iff_of_le {least count : Nat} (short : start.rest.length < least)
    (many : least ≤ count) :
    (reading.rounds count).Leads text start finish ↔
      (reading.rounds least).Leads text start finish := by
  obtain ⟨further, rfl⟩ := Nat.exists_eq_add_of_le many
  clear many
  induction further with
  | zero => rfl
  | succ further ih =>
      rw [← Nat.add_assoc, ← ih]
      exact ⟨Leads.fewer (by omega), Leads.more (by omega)⟩

/-- Some of the places leads there. -/
def LeadsFrom (reading : Reading) (text : List Char) (places : List Place) (finish : Place) :
    Prop :=
  ∃ start ∈ places, reading.Leads text start finish

theorem leadsFrom_nothing_iff {places : List Place} (inside : ∀ place ∈ places, place.IsIn text) :
    nothing.LeadsFrom text places finish ↔ finish ∈ places := by
  constructor
  · rintro ⟨start, member, still⟩
    obtain rfl := (leads_nothing_iff (inside start member)).1 still
    exact member
  · intro member
    exact ⟨finish, member, (leads_nothing_iff (inside finish member)).2 rfl⟩

/-- What the first leads to, the second goes on from. -/
theorem leadsFrom_andThen_iff {places middle : List Place}
    (reached : ∀ place, place ∈ middle ↔ first.LeadsFrom text places place) :
    (first.andThen second).LeadsFrom text places finish ↔ second.LeadsFrom text middle finish := by
  constructor
  · rintro ⟨start, member, leads⟩
    obtain ⟨between, opening, rest⟩ := leads_andThen_iff.1 leads
    exact ⟨between, (reached between).2 ⟨start, member, opening⟩, rest⟩
  · rintro ⟨between, member, rest⟩
    obtain ⟨start, member, opening⟩ := (reached between).1 member
    exact ⟨start, member, leads_andThen_iff.2 ⟨between, opening, rest⟩⟩

theorem leadsFrom_orElse_iff {places : List Place} :
    (first.orElse second).LeadsFrom text places finish ↔
      first.LeadsFrom text places finish ∨ second.LeadsFrom text places finish := by
  constructor
  · rintro ⟨_, member, front, matched, back, whole, rfl, rfl, read | read⟩
    · exact .inl ⟨_, member, front, matched, back, whole, rfl, rfl, read⟩
    · exact .inr ⟨_, member, front, matched, back, whole, rfl, rfl, read⟩
  · rintro (⟨_, member, front, matched, back, whole, rfl, rfl, read⟩ |
      ⟨_, member, front, matched, back, whole, rfl, rfl, read⟩)
    · exact ⟨_, member, front, matched, back, whole, rfl, rfl, .inl read⟩
    · exact ⟨_, member, front, matched, back, whole, rfl, rfl, .inr read⟩

theorem lt_furthest {places : List Place} {place : Place} (member : place ∈ places) :
    place.rest.length < furthest places := by
  have grows (most : Nat) :
      most ≤ places.foldl (fun most place => max most place.rest.length) most ∧
        ∀ place ∈ places, place.rest.length ≤
          places.foldl (fun most place => max most place.rest.length) most := by
    clear member
    induction places generalizing most with
    | nil => simp
    | cons first rest ih =>
        have later := ih (max most first.rest.length)
        simp only [List.foldl_cons, List.forall_mem_cons]
        exact ⟨by omega, by omega, later.2⟩
  exact Nat.lt_succ_of_le ((grows 0).2 place member)

theorem leadsFrom_rounds_min_iff {places : List Place} (count : Nat) :
    (reading.rounds (min count (furthest places))).LeadsFrom text places finish ↔
      (reading.rounds count).LeadsFrom text places finish := by
  rcases Nat.le_total count (furthest places) with few | many
  · rw [Nat.min_eq_left few]
  · rw [Nat.min_eq_right many]
    exact exists_congr fun start => and_congr_right fun member =>
      (leads_rounds_iff_of_le (lt_furthest member) many).symm

theorem leadsFrom_rounds_add_iff {places middle : List Place} {count : Nat}
    (reached : ∀ place, place ∈ middle ↔ (reading.rounds count).LeadsFrom text places place)
    (more : Nat) :
    (reading.rounds more).LeadsFrom text middle finish ↔
      (reading.rounds (count + more)).LeadsFrom text places finish := by
  rw [← leadsFrom_andThen_iff reached]
  exact exists_congr fun start => and_congr_right fun _ =>
    leads_andThen_iff.trans (leads_rounds_add_iff count more).symm

end Reading

theorem mem_distinct_iff {text : List Char} {places : List Place}
    (inside : ∀ place ∈ places, place.IsIn text) {place : Place} :
    place ∈ distinct places ↔ place ∈ places := by
  have kept (done : List Place) (known : ∀ place ∈ done, place.IsIn text) :
      place ∈ places.foldl (fun kept place =>
          if kept.any fun other => other.index == place.index then kept else place :: kept) done ↔
        place ∈ done ∨ place ∈ places := by
    induction places generalizing done with
    | nil => simp
    | cons first rest ih =>
        rw [List.forall_mem_cons] at inside
        rw [List.foldl_cons]
        split
        · next found =>
          obtain ⟨other, member, same⟩ := List.any_eq_true.1 found
          obtain rfl := (known other member).eq_of_index inside.1 (beq_iff_eq.1 same)
          rw [ih inside.2 done known, List.mem_cons]
          constructor
          · rintro (old | new)
            · exact .inl old
            · exact .inr (.inr new)
          · rintro (old | rfl | new)
            · exact .inl old
            · exact .inl member
            · exact .inr new
        · rw [ih inside.2 _ (List.forall_mem_cons.2 ⟨inside.1, known⟩), List.mem_cons,
            List.mem_cons, or_assoc, or_left_comm]
  rw [distinct, List.mem_reverse, kept [] (by simp)]
  simp

theorem eq_of_map_index {text : List Char} {places others : List Place}
    (inside : ∀ place ∈ places, place.IsIn text)
    (inside' : ∀ place ∈ others, place.IsIn text)
    (same : places.map Place.index = others.map Place.index) : places = others := by
  induction places generalizing others with
  | nil => exact (List.map_eq_nil_iff.1 same.symm).symm
  | cons first rest ih =>
      cases others with
      | nil => cases same
      | cons other others =>
          rw [List.forall_mem_cons] at inside inside'
          rw [List.map_cons, List.map_cons, List.cons.injEq] at same
          rw [inside.1.eq_of_index inside'.1 same.1, ih inside.2 inside'.2 same.2]

/-- The step takes places to those that the reading leads to. -/
def Follows (text : List Char) (step : List Place → List Place) (reading : Reading) : Prop :=
  ∀ places : List Place, (∀ place ∈ places, place.IsIn text) → ∀ finish,
    finish ∈ step places ↔ reading.LeadsFrom text places finish

namespace Follows

variable {text : List Char} {step : List Place → List Place} {reading : Reading}
  {places : List Place}

theorem isIn (follows : Follows text step reading) (inside : ∀ place ∈ places, place.IsIn text) :
    ∀ place ∈ step places, place.IsIn text := by
  intro place member
  obtain ⟨start, -, leads⟩ := (follows places inside place).1 member
  exact leads.isIn_right

theorem distinct (follows : Follows text step reading) :
    Follows text (fun places => Pattern.distinct (step places)) reading := by
  intro places inside finish
  rw [mem_distinct_iff (follows.isIn inside), follows places inside]

/-- Places that one round leads to and no others, any number of rounds leads to. -/
theorem mem_iff_rounds_of_fixed (inside : ∀ place ∈ places, place.IsIn text)
    (fixed : ∀ place, place ∈ places ↔ reading.LeadsFrom text places place) (count : Nat)
    {finish : Place} :
    finish ∈ places ↔ (reading.rounds count).LeadsFrom text places finish := by
  induction count with
  | zero => exact (Reading.leadsFrom_nothing_iff inside).symm
  | succ count ih => rw [ih, Reading.rounds, Reading.leadsFrom_andThen_iff fixed]

theorem times (follows : Follows text step reading) (count : Nat) :
    Follows text (Pattern.times step count) (reading.rounds count) := by
  intro places inside finish
  induction count generalizing places with
  | zero => exact (Reading.leadsFrom_nothing_iff inside).symm
  | succ count ih =>
      have reached := follows.distinct places inside
      have inside' := follows.distinct.isIn inside
      rw [Pattern.times]
      split
      · next same =>
        have same := eq_of_map_index inside' inside same
        simp only [same] at reached ⊢
        exact mem_iff_rounds_of_fixed inside reached (count + 1)
      · rw [ih _ inside', Reading.rounds, Reading.leadsFrom_andThen_iff reached]

end Follows

/-- Places that were reached: what one round leads to from any of them was reached too, unless it
is one of the last. -/
structure Frontier (text : List Char) (reading : Reading) (reached last : List Place) : Prop where
  inside : ∀ place ∈ reached, place.IsIn text
  subset : last ⊆ reached
  closed : ∀ {start finish : Place}, start ∈ reached → start ∉ last →
    reading.Leads text start finish → finish ∈ reached

namespace Frontier

variable {text : List Char} {step : List Place → List Place} {reading : Reading}
  {reached last fresh : List Place}

theorem mem_fresh_iff (frontier : Frontier text reading reached last)
    (follows : Follows text step reading) (place : Place) :
    (place ∈ (distinct (step last)).filter fun place =>
        !reached.any fun other => other.index == place.index) ↔
      reading.LeadsFrom text last place ∧ place ∉ reached := by
  have inside (place : Place) (member : place ∈ last) :=
    frontier.inside place (frontier.subset member)
  rw [List.mem_filter, follows.distinct last inside]
  refine and_congr_right fun ⟨start, _, leads⟩ => ?_
  rw [Bool.not_eq_true', Bool.eq_false_iff, ne_eq, not_iff_not, List.any_eq_true]
  constructor
  · rintro ⟨other, member, same⟩
    exact (frontier.inside other member).eq_of_index leads.isIn_right (beq_iff_eq.1 same) ▸ member
  · intro member
    exact ⟨place, member, beq_self_eq_true _⟩

section

variable (frontier : Frontier text reading reached last)
  (fresh_iff : ∀ place, place ∈ fresh ↔ reading.LeadsFrom text last place ∧ place ∉ reached)

include frontier fresh_iff

theorem mem_append_iff (place : Place) :
    place ∈ reached ++ fresh ↔ place ∈ reached ∨ reading.LeadsFrom text reached place := by
  rw [List.mem_append, fresh_iff]
  constructor
  · rintro (old | ⟨⟨start, member, leads⟩, -⟩)
    · exact .inl old
    · exact .inr ⟨start, frontier.subset member, leads⟩
  · rintro (old | ⟨start, member, leads⟩)
    · exact .inl old
    · by_cases old : place ∈ reached
      · exact .inl old
      · refine .inr ⟨⟨start, ?_, leads⟩, old⟩
        by_contra early
        exact old (frontier.closed member early leads)

theorem next : Frontier text reading (reached ++ fresh) fresh where
  inside place member := by
    rcases List.mem_append.1 member with old | new
    · exact frontier.inside place old
    · obtain ⟨⟨start, -, leads⟩, -⟩ := (fresh_iff place).1 new
      exact leads.isIn_right
  subset := List.subset_append_right reached fresh
  closed := by
    intro start finish member early leads
    have old := (List.mem_append.1 member).resolve_right early
    exact (frontier.mem_append_iff fresh_iff finish).2 (.inr ⟨start, old, leads⟩)

end

theorem exists_rounds_succ_iff {next : List Place}
    (inside : ∀ place ∈ reached, place.IsIn text) (inside' : ∀ place ∈ next, place.IsIn text)
    (next_iff : ∀ place, place ∈ next ↔ place ∈ reached ∨ reading.LeadsFrom text reached place)
    (count : Nat) {finish : Place} :
    (∃ rounds ≤ count + 1, (reading.rounds rounds).LeadsFrom text reached finish) ↔
      ∃ rounds ≤ count, (reading.rounds rounds).LeadsFrom text next finish := by
  constructor
  · rintro ⟨_ | rounds, few, start, member, leads⟩
    · obtain rfl := (Reading.leads_nothing_iff (inside start member)).1 leads
      have member := (next_iff finish).2 (.inl member)
      exact ⟨0, Nat.zero_le count, (Reading.leadsFrom_nothing_iff inside').2 member⟩
    · obtain ⟨between, step, others⟩ := Reading.leads_rounds_succ_iff.1 leads
      exact ⟨rounds, Nat.le_of_succ_le_succ few, between,
        (next_iff between).2 (.inr ⟨start, member, step⟩), others⟩
  · rintro ⟨rounds, few, between, member, others⟩
    rcases (next_iff between).1 member with old | ⟨start, member, step⟩
    · exact ⟨rounds, Nat.le_succ_of_le few, between, old, others⟩
    · exact ⟨rounds + 1, Nat.succ_le_succ few, start, member,
        Reading.leads_rounds_succ_iff.2 ⟨between, step, others⟩⟩

theorem mem_of_rounds (closed : ∀ place, reading.LeadsFrom text reached place → place ∈ reached)
    {count : Nat} {start finish : Place} (member : start ∈ reached)
    (leads : (reading.rounds count).Leads text start finish) : finish ∈ reached := by
  induction count generalizing start with
  | zero => exact (Reading.leads_nothing_iff leads.isIn_left).1 leads ▸ member
  | succ count ih =>
      obtain ⟨between, step, others⟩ := Reading.leads_rounds_succ_iff.1 leads
      exact ih (closed between ⟨start, member, step⟩) others

/-- The search ends with what so many rounds lead to, or earlier where nothing fresh is found. -/
theorem mem_upTo_iff (frontier : Frontier text reading reached last)
    (follows : Follows text step reading) (count : Nat) {finish : Place} :
    finish ∈ upTo step count reached last ↔
      ∃ rounds ≤ count, (reading.rounds rounds).LeadsFrom text reached finish := by
  induction count generalizing reached last with
  | zero =>
      simp only [upTo, Nat.le_zero_eq, exists_eq_left, Reading.rounds,
        Reading.leadsFrom_nothing_iff frontier.inside]
  | succ count ih =>
      have fresh_iff := frontier.mem_fresh_iff follows
      rw [upTo]
      generalize List.filter _ (distinct (step last)) = fresh at fresh_iff ⊢
      have next_iff := frontier.mem_append_iff fresh_iff
      have next := frontier.next fresh_iff
      split
      · next empty =>
        obtain rfl := List.isEmpty_iff.1 empty
        rw [List.append_nil] at next_iff
        constructor
        · intro member
          exact ⟨0, Nat.zero_le _, (Reading.leadsFrom_nothing_iff frontier.inside).2 member⟩
        · rintro ⟨rounds, -, start, member, leads⟩
          exact mem_of_rounds (fun place onward => (next_iff place).2 (.inr onward)) member leads
      · exact (ih next).trans
          (exists_rounds_succ_iff frontier.inside next.inside next_iff count).symm

end Frontier

section

variable {text : List Char}

theorem follows_filterMap {step? : Place → Option Place} {reading : Reading}
    (each : ∀ {start finish : Place}, start.IsIn text →
      (step? start = some finish ↔ reading.Leads text start finish)) :
    Follows text (fun places => places.filterMap step?) reading := by
  intro places inside finish
  rw [List.mem_filterMap]
  exact exists_congr fun start => and_congr_right fun member => each (inside start member)

theorem follows_text (characters : List Char) :
    Follows text (Pattern.text characters).ends (Pattern.text characters).reading := by
  apply follows_filterMap
  rintro _ finish ⟨front, rest, whole, rfl⟩
  rw [Place.behind?_between_iff, Reading.leads_between_iff whole]
  constructor
  · rintro ⟨back, rfl, rfl⟩
    exact ⟨characters, back, rfl, rfl, rfl⟩
  · rintro ⟨_, back, rfl, rfl, rfl⟩
    exact ⟨back, rfl, rfl⟩

theorem follows_oneOf (bytes : Bool) (set : CharSet) :
    Follows text (oneOf bytes set).ends (oneOf bytes set).reading := by
  apply follows_filterMap
  rintro _ finish ⟨front, rest, whole, rfl⟩
  rw [Place.next?_between_iff, Reading.leads_between_iff whole]
  constructor
  · rintro ⟨c, back, rfl, rfl, held⟩
    exact ⟨[c], back, rfl, rfl, c, held, rfl⟩
  · rintro ⟨_, back, rfl, rfl, c, held, rfl⟩
    exact ⟨c, back, rfl, rfl, held⟩

theorem follows_look (condition : Look) :
    Follows text (look condition).ends (look condition).reading := by
  intro places inside finish
  rw [ends, List.mem_filter]
  constructor
  · rintro ⟨member, holds⟩
    obtain ⟨front, back, whole, rfl⟩ := inside finish member
    exact ⟨_, member, front, [], back, whole, rfl, by rw [List.append_nil], rfl, holds⟩
  · rintro ⟨_, member, front, _, back, whole, rfl, rfl, rfl, holds⟩
    rw [List.append_nil]
    exact ⟨member, holds⟩

theorem leads_repeated_iff {least : Nat} {most : Option Nat} {lazy : Bool} {inner : Pattern}
    {start finish : Place} :
    (repeated least most lazy inner).reading.Leads text start finish ↔
      ∃ count, least ≤ count ∧ (∀ greatest ∈ most, count ≤ max least greatest) ∧
        (inner.reading.rounds count).Leads text start finish := by
  constructor
  · rintro ⟨front, matched, back, whole, rfl, rfl, count, enough, few, read⟩
    exact ⟨count, enough, few, front, matched, back, whole, rfl, rfl, read⟩
  · rintro ⟨count, enough, few, front, matched, back, whole, rfl, rfl, read⟩
    exact ⟨front, matched, back, whole, rfl, rfl, count, enough, few, read⟩

/-- Behind the rounds that are required stand those that are merely allowed. -/
theorem leadsFrom_repeated_iff {least : Nat} {most : Option Nat} {lazy : Bool} {inner : Pattern}
    {places reached : List Place} {finish : Place} (required : ∀ place, place ∈ reached ↔
      (inner.reading.rounds least).LeadsFrom text places place) :
    (repeated least most lazy inner).reading.LeadsFrom text places finish ↔
      ∃ more, (∀ greatest ∈ most, more ≤ greatest - least) ∧
        (inner.reading.rounds more).LeadsFrom text reached finish := by
  simp only [Reading.leadsFrom_rounds_add_iff required]
  constructor
  · rintro ⟨start, member, leads⟩
    obtain ⟨count, enough, few, rounds⟩ := leads_repeated_iff.1 leads
    obtain ⟨more, rfl⟩ := Nat.exists_eq_add_of_le enough
    refine ⟨more, fun greatest allowed => ?_, start, member, rounds⟩
    have bound := few greatest allowed
    omega
  · rintro ⟨more, few, start, member, leads⟩
    refine ⟨start, member, leads_repeated_iff.2
      ⟨least + more, Nat.le_add_right least more, fun greatest allowed => ?_, leads⟩⟩
    have bound := few greatest allowed
    omega

theorem follows_repeated (least : Nat) (most : Option Nat) (lazy : Bool) {inner : Pattern}
    (follows : Follows text inner.ends inner.reading) :
    Follows text (repeated least most lazy inner).ends (repeated least most lazy inner).reading := by
  intro places inside finish
  have enough := follows.times (min least (furthest places))
  have required (place : Place) := (enough places inside place).trans
    (Reading.leadsFrom_rounds_min_iff least)
  have inside' := enough.isIn inside
  rw [ends]
  dsimp only
  generalize times inner.ends (min least (furthest places)) places = reached at required inside' ⊢
  have frontier : Frontier text inner.reading reached reached :=
    ⟨inside', List.Subset.refl _, fun member early => absurd member early⟩
  rw [frontier.mem_upTo_iff follows, leadsFrom_repeated_iff required]
  cases most with
  | some greatest => simp
  | none =>
      -- Without a bound the search goes as far as there are characters left.
      constructor
      · rintro ⟨rounds, -, leads⟩
        exact ⟨rounds, by simp, leads⟩
      · rintro ⟨rounds, -, leads⟩
        exact ⟨_, Nat.min_le_right rounds _, (Reading.leadsFrom_rounds_min_iff rounds).2 leads⟩

mutual

theorem follows_ends : (pattern : Pattern) → Follows text pattern.ends pattern.reading
  | empty => fun _ inside _ => (Reading.leadsFrom_nothing_iff inside).symm
  | .text characters => follows_text characters
  | oneOf bytes set => follows_oneOf bytes set
  | look condition => follows_look condition
  | repeated least most lazy inner => follows_repeated least most lazy (follows_ends inner)
  | group _ inner => follows_ends inner
  | sequence items => follows_sequenceEnds items
  | choice branches => (follows_choiceEnds branches).distinct

theorem follows_sequenceEnds :
    (items : List Pattern) → Follows text (sequenceEnds items) (readingInTurn items)
  | [] => fun _ inside _ => (Reading.leadsFrom_nothing_iff inside).symm
  | item :: rest => fun places inside finish => by
      have first := follows_ends item places inside
      have later := follows_sequenceEnds rest _ ((follows_ends item).isIn inside) finish
      rw [sequenceEnds, readingInTurn, later, Reading.leadsFrom_andThen_iff first]

theorem follows_choiceEnds :
    (branches : List Pattern) → Follows text (choiceEnds branches) (readingOfAny branches)
  | [] => fun places _ finish => by simp [choiceEnds, readingOfAny, Reading.LeadsFrom, Reading.Leads]
  | branch :: rest => fun places inside finish => by
      have first := follows_ends branch places inside finish
      have later := follows_choiceEnds rest places inside finish
      rw [choiceEnds, List.mem_append, first, later, readingOfAny,
        Reading.leadsFrom_orElse_iff]

end

end

/-- A pattern occurs in a text just where some part of the text is what the pattern matches. -/
theorem occursIn_iff {pattern : Pattern} {text : String} :
    pattern.occursIn text = true ↔ ∃ front matched back,
      front ++ (matched ++ back) = text.toList ∧ pattern.reading front matched back := by
  have inside (place : Place) : place ∈ Place.onward 0 none text.toList → place.IsIn text.toList :=
    Place.mem_onward_zero_iff.1
  rw [occursIn, Bool.not_eq_true', Bool.eq_false_iff, ne_eq, List.isEmpty_iff,
    List.eq_nil_iff_forall_not_mem]
  push Not
  simp only [follows_ends pattern _ inside]
  constructor
  · rintro ⟨finish, start, -, front, matched, back, whole, -, -, read⟩
    exact ⟨front, matched, back, whole, read⟩
  · rintro ⟨front, matched, back, whole, read⟩
    exact ⟨_, _, Place.mem_onward_zero_iff.2 ⟨front, matched ++ back, whole, rfl⟩,
      front, matched, back, whole, rfl, rfl, read⟩

/-- A plain text occurs where it stands. -/
theorem occursIn_text_iff {characters : List Char} {text : String} :
    (Pattern.text characters).occursIn text = true ↔ characters <:+: text.toList := by
  rw [occursIn_iff]
  constructor
  · rintro ⟨front, _, back, whole, rfl⟩
    exact ⟨front, back, by rw [List.append_assoc, whole]⟩
  · rintro ⟨front, back, whole⟩
    exact ⟨front, characters, back, by rw [← List.append_assoc, whole], rfl⟩

end QueryGroup.Pattern
