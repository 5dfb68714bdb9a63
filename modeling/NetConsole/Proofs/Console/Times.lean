import NetConsole.Proofs.Console.Calendar
import NetConsole.Proofs.Json.Numbers
import Mathlib.Data.Rat.Floor

/-!
# Reading times back

The text of a point in time is read back as the second that it was made of, on the Gregorian
calendar, for every second that has a text. The text of a span of time is read back as its whole
minutes. So texts differ for different seconds, and for different minutes.
-/

set_option autoImplicit false

namespace NetConsole.Console

open Json Decimal

/-! ## Numbers in a text -/

/-- The number at the front of a text, and what follows its digits. -/
def number? (cs : List Char) : Option (Nat × List Char) :=
  (numberIn? 10 (cs.takeWhile isDigit)).map fun n => (n, cs.dropWhile isDigit)

/-- The number before a mark, and what follows the mark. -/
def field? (mark : Char) (cs : List Char) : Option (Nat × List Char) :=
  match number? cs with
  | some (n, next :: rest) => if next = mark then some (n, rest) else none
  | _ => none

theorem number?_append {digits rest : List Char} (given : digits ≠ [])
    (all : ∀ c ∈ digits, isDigit c = true) (ends : ∀ c ∈ rest.head?, isDigit c = false) :
    number? (digits ++ rest) = some (digitsValue digits, rest) := by
  obtain ⟨taken, left⟩ := takeWhile_append_of_ends all ends
  rw [number?, taken, left, numberIn?_of_isDigit given all]
  rfl

theorem number?_toString (n : Nat) (rest : List Char)
    (ends : ∀ c ∈ rest.head?, isDigit c = false) :
    number? ((toString n).toList ++ rest) = some (n, rest) := by
  have written : (toString n).toList = digitChars n := Nat.toList_repr
  rw [written, number?_append (digitChars_ne_nil n) (fun _ member => isDigit_of_mem_digitChars member)
    ends, digitsValue_digitChars]

theorem digitsValue_zeros (count : Nat) (cs : List Char) :
    digitsValue (List.replicate count '0' ++ cs) = digitsValue cs := by
  induction count with
  | zero => rfl
  | succ count ih => exact ih

theorem toList_digits (count n : Nat) : ∃ zeros,
    (digits count n).toList = List.replicate zeros '0' ++ digitChars n := by
  refine ⟨count - (toString n).length, ?_⟩
  rw [digits, String.toList_append, String.toList_ofList]
  exact congrArg _ Nat.toList_repr

theorem isDigit_of_mem_digits {count n : Nat} {c : Char} (member : c ∈ (digits count n).toList) :
    isDigit c = true := by
  obtain ⟨zeros, written⟩ := toList_digits count n
  rw [written] at member
  rcases List.mem_append.mp member with zero | digit
  · rw [List.eq_of_mem_replicate zero]
    rfl
  · exact isDigit_of_mem_digitChars digit

theorem digits_ne_nil (count n : Nat) : (digits count n).toList ≠ [] := by
  obtain ⟨zeros, written⟩ := toList_digits count n
  rw [written]
  exact List.append_ne_nil_of_right_ne_nil _ (digitChars_ne_nil n)

theorem number?_digits (count n : Nat) (rest : List Char)
    (ends : ∀ c ∈ rest.head?, isDigit c = false) :
    number? ((digits count n).toList ++ rest) = some (n, rest) := by
  rw [number?_append (digits_ne_nil count n) (fun _ member => isDigit_of_mem_digits member) ends]
  obtain ⟨zeros, written⟩ := toList_digits count n
  rw [written, digitsValue_zeros, digitsValue_digitChars]

theorem field?_digits {mark : Char} (apart : isDigit mark = false) (count n : Nat)
    (rest : List Char) : field? mark ((digits count n).toList ++ mark :: rest) = some (n, rest) := by
  have ends : ∀ c ∈ (mark :: rest).head?, isDigit c = false := by
    intro c first
    cases first
    exact apart
  rw [field?, number?_digits count n _ ends]
  exact if_pos rfl

/-! ## Points in time -/

/-- The year before a dash, with a sign or without one. -/
def year? : List Char → Option (Int × List Char)
  | '-' :: cs => (field? '-' cs).map fun (n, rest) => (-(n : Int), rest)
  | '+' :: cs => (field? '-' cs).map fun (n, rest) => ((n : Int), rest)
  | cs => (field? '-' cs).map fun (n, rest) => ((n : Int), rest)

/-- The second since the beginning of 1970 that a date and a time of day name. -/
def readSecond? (text : String) : Option Int := do
  let (year, rest) ← year? text.toList
  let (month, rest) ← field? '-' rest
  let (day, rest) ← field? ' ' rest
  let (hour, rest) ← field? ':' rest
  let (minute, rest) ← field? ':' rest
  let (second, rest) ← number? rest
  let date : Date := ⟨year, month, day⟩
  if date.IsReal ∧ hour < 24 ∧ minute < 60 ∧ second < 60 ∧ rest = [] then
    some (date.toDays * daySeconds + (3600 * hour + 60 * minute + second : Nat))
  else none

theorem year?_unsigned {cs rest : List Char} {n : Nat} (read : field? '-' cs = some (n, rest))
    (digit : ∀ c ∈ cs.head?, isDigit c = true) : year? cs = some ((n : Int), rest) := by
  unfold year?
  split
  case h_1 => exact absurd (digit '-' rfl) (by decide)
  case h_2 => exact absurd (digit '+' rfl) (by decide)
  case h_3 =>
    rw [read]
    rfl

theorem year?_yearText (year : Int) (rest : List Char) :
    year? ((yearText year).toList ++ '-' :: rest) = some (year, rest) := by
  have apart : isDigit '-' = false := by decide
  unfold yearText
  split
  case isTrue ordinary =>
    have read := field?_digits apart 4 year.toNat rest
    rw [year?_unsigned read, Int.toNat_of_nonneg ordinary.1]
    intro c first
    cases shape : (digits 4 year.toNat).toList with
    | nil => exact absurd shape (digits_ne_nil 4 year.toNat)
    | cons d more =>
        rw [shape] at first
        cases first
        exact isDigit_of_mem_digits (shape ▸ List.mem_cons_self)
  case isFalse beyond =>
    have read := field?_digits apart 4 year.natAbs rest
    have minus : "-".toList = ['-'] := by decide
    have plus : "+".toList = ['+'] := by decide
    split
    case isTrue negative =>
      rw [String.toList_append, minus, List.cons_append, List.nil_append, List.cons_append, year?,
        read, Option.map_some]
      dsimp only
      rw [Int.ofNat_natAbs_of_nonpos negative.le, Int.neg_neg]
    case isFalse positive =>
      rw [String.toList_append, plus, List.cons_append, List.nil_append, List.cons_append, year?,
        read, Option.map_some]
      dsimp only
      rw [Int.natAbs_of_nonneg (Int.not_lt.mp positive)]

/-- A date and a time of day are read back from their text. -/
theorem readSecond?_text {date : Date} (real : date.IsReal) (hour minute second : Nat)
    (inDay : hour < 24) (inHour : minute < 60) (inMinute : second < 60) :
    readSecond? (yearText date.year ++ "-" ++ digits 2 date.month ++ "-" ++ digits 2 date.day ++
      " " ++ digits 2 hour ++ ":" ++ digits 2 minute ++ ":" ++ digits 2 second) =
        some (date.toDays * daySeconds + (3600 * hour + 60 * minute + second : Nat)) := by
  have dash : isDigit '-' = false := by decide
  have blank : isDigit ' ' = false := by decide
  have colon : isDigit ':' = false := by decide
  have marks : "-".toList = ['-'] ∧ " ".toList = [' '] ∧ ":".toList = [':'] := by decide
  have last : number? (digits 2 second).toList = some (second, []) := by
    have read := number?_digits 2 second [] fun _ none => (nomatch none)
    rwa [List.append_nil] at read
  unfold readSecond?
  simp only [String.toList_append, marks, List.append_assoc, List.cons_append, List.nil_append,
    year?_yearText, field?_digits dash, field?_digits blank, field?_digits colon, last,
    Option.bind_eq_bind, Option.bind_some]
  exact if_pos ⟨real, inDay, inHour, inMinute, trivial⟩

/-- Every second is read back from its text. -/
theorem readSecond?_secondText (second : Int) : readSecond? (secondText second) = some second := by
  have within : (second % daySeconds).toNat < 86400 := by
    unfold daySeconds
    omega
  have real := Date.isReal_ofDays (second / daySeconds)
  have read := readSecond?_text real ((second % daySeconds).toNat / 3600)
    ((second % daySeconds).toNat / 60 % 60) ((second % daySeconds).toNat % 60)
    (by omega) (by omega) (by omega)
  have whole : second / daySeconds * daySeconds + (second % daySeconds).toNat = second := by
    unfold daySeconds
    omega
  rw [secondText, read, Date.toDays_ofDays, Option.some_inj]
  omega

/-! ## The seconds that have a text -/

theorem readSecond?_dash : readSecond? dash = none := by decide

theorem ofSeconds?_of_within {time : Int} (within : firstSecond ≤ time ∧ time ≤ lastSecond) :
    Moment.ofSeconds? time = some ⟨time, 0⟩ := if_pos within

theorem seconds_of_within {second : Int} (within : firstSecond ≤ second ∧ second ≤ lastSecond) :
    seconds (some second) = secondText second := by
  rw [seconds, Option.bind_some, ofSeconds?_of_within within]
  rfl

theorem seconds_of_outside {second : Int} (outside : ¬ (firstSecond ≤ second ∧ second ≤ lastSecond)) :
    seconds (some second) = dash := by
  rw [seconds, Option.bind_some, Moment.ofSeconds?, if_neg outside]
  rfl

/-- The milliseconds that have a text are those of the seconds that have one. -/
theorem within_iff (time : Int) : firstMillisecond ≤ time ∧ time ≤ lastMillisecond ↔
    firstSecond ≤ time / 1000 ∧ time / 1000 ≤ lastSecond := by
  unfold firstMillisecond lastMillisecond firstSecond lastSecond
  omega

/-- Nothing of a count of milliseconds gets lost in the point in time that it is made into. -/
theorem ofMilliseconds?_eq_some_iff {time : Int} {moment : Moment} :
    Moment.ofMilliseconds? time = some moment ↔
      (firstSecond ≤ moment.second ∧ moment.second ≤ lastSecond) ∧ moment.part < 1000 ∧
        1000 * moment.second + moment.part = time := by
  obtain ⟨second, part⟩ := moment
  simp only [Moment.ofMilliseconds?, Option.ite_none_right_eq_some, Option.some.injEq,
    Moment.mk.injEq, within_iff]
  omega

theorem milliseconds_eq_seconds (time : Int) :
    milliseconds (some time) = seconds (some (time / 1000)) := by
  by_cases within : firstSecond ≤ time / 1000 ∧ time / 1000 ≤ lastSecond
  · have made : Moment.ofMilliseconds? time = some ⟨time / 1000, (time % 1000).toNat⟩ :=
      ofMilliseconds?_eq_some_iff.mpr ⟨within, by dsimp only; omega, by dsimp only; omega⟩
    rw [seconds_of_within within, milliseconds, Option.bind_some, made]
    rfl
  · rw [seconds_of_outside within, milliseconds, Option.bind_some, Moment.ofMilliseconds?,
      if_neg (mt (within_iff time).mp within)]
    rfl

theorem seconds_eq_dash_iff {second : Int} :
    seconds (some second) = dash ↔ second < firstSecond ∨ lastSecond < second := by
  constructor
  · intro dashed
    by_contra inside
    have within : firstSecond ≤ second ∧ second ≤ lastSecond := by omega
    have read := readSecond?_secondText second
    rw [← seconds_of_within within, dashed, readSecond?_dash] at read
    cases read
  · intro outside
    exact seconds_of_outside (by omega)

/-- A point in time in milliseconds has the text of the second in which it lies, however long it
was before 1970. Each second on the calendar has a text of its own, from which it is read back. -/
theorem seconds_read_back :
    (∀ time : Int, milliseconds (some time) = seconds (some ⌊(time : ℚ) / 1000⌋)) ∧
    (∀ time : Int, milliseconds (some time) = dash ↔
      time < 1000 * firstSecond ∨ 1000 * (lastSecond + 1) ≤ time) ∧
    (∀ second : Int, seconds (some second) = dash ↔ second < firstSecond ∨ lastSecond < second) ∧
    (∀ second : Int, firstSecond ≤ second → second ≤ lastSecond →
      readSecond? (seconds (some second)) = some second) ∧
    ∀ earlier later : Int, firstSecond ≤ earlier → earlier < later → later ≤ lastSecond →
      seconds (some earlier) ≠ seconds (some later) := by
  have back : ∀ second : Int, firstSecond ≤ second → second ≤ lastSecond →
      readSecond? (seconds (some second)) = some second := by
    intro second above below
    rw [seconds_of_within ⟨above, below⟩]
    exact readSecond?_secondText second
  refine ⟨fun time => ?floor, fun time => ?range, fun second => seconds_eq_dash_iff, back, ?apart⟩
  case floor =>
    have floor : ⌊(time : ℚ) / 1000⌋ = time / 1000 := Rat.floor_intCast_div_natCast time 1000
    rw [floor, milliseconds_eq_seconds]
  case range =>
    rw [milliseconds_eq_seconds, seconds_eq_dash_iff]
    unfold firstSecond lastSecond
    omega
  case apart =>
    intro earlier later start before stop same
    have read := back earlier start (by omega)
    rw [same, back later (by omega) stop] at read
    cases read
    exact absurd before (lt_irrefl _)

theorem seconds_read_back_sample :
    let second : Int := -62167219201
    firstSecond ≤ second ∧ second ≤ lastSecond ∧ second < 0 ∧ 0 ≤ lastSecond ∧
      milliseconds (some (-62167219200999)) =
        seconds (some ⌊((-62167219200999 : Int) : ℚ) / 1000⌋) ∧
      milliseconds (some (-62167219200999)) = "-0001-12-31 23:59:59" ∧
      readSecond? (seconds (some second)) = some second ∧
      seconds (some second) ≠ seconds (some 0) := by
  intro second
  have above : firstSecond ≤ second := by decide
  have below : second ≤ lastSecond := by decide
  have before : second < 0 := by decide
  have last : 0 ≤ lastSecond := by decide
  obtain ⟨floor, -, -, back, apart⟩ := seconds_read_back
  exact ⟨above, below, before, last, floor _, by decide +kernel, back second above below,
    apart second 0 above before last⟩

/-! ## Amounts in a text -/

/-- An amount such as `3h`, its unit first. -/
def amount? (cs : List Char) : Option (Char × Nat) :=
  match number? cs with
  | some (n, [unit]) => some (unit, n)
  | _ => none

/-- The amounts of a text, with blanks between them. -/
def amounts? (text : String) : Option (List (Char × Nat)) := (text.toList.splitOn ' ').mapM amount?

/-- How much there is of a unit; a unit that is left out counts as zero. -/
def amountOf (unit : Char) (amounts : List (Char × Nat)) : Nat := (amounts.lookup unit).getD 0

def amountText (amount : Char × Nat) : String := toString amount.2 ++ String.singleton amount.1

theorem amount?_amountText {amount : Char × Nat} (apart : isDigit amount.1 = false) :
    amount? (amountText amount).toList = some amount := by
  have read := number?_toString amount.2 [amount.1] fun c first => by
    cases first
    exact apart
  rw [amountText, String.toList_append, String.toList_singleton, amount?, read]

theorem blank_notMem_amountText {amount : Char × Nat} (apart : amount.1 ≠ ' ') :
    ' ' ∉ (amountText amount).toList := by
  have written : (toString amount.2).toList = digitChars amount.2 := Nat.toList_repr
  rw [amountText, String.toList_append, String.toList_singleton, written]
  intro member
  rcases List.mem_append.mp member with digit | unit
  · exact absurd (isDigit_of_mem_digitChars digit) (by decide)
  · exact apart (List.mem_singleton.mp unit).symm

/-- Amounts are read back from their texts. -/
theorem amounts?_intercalate {amounts : List (Char × Nat)} (given : amounts ≠ [])
    (units : ∀ amount ∈ amounts, isDigit amount.1 = false ∧ amount.1 ≠ ' ') :
    amounts? (" ".intercalate (amounts.map amountText)) = some amounts := by
  have split : (" ".intercalate (amounts.map amountText)).toList.splitOn ' ' =
      amounts.map fun amount => (amountText amount).toList := by
    rw [String.toList_intercalate, List.map_map]
    refine List.splitOn_intercalate ' ' ?_ (by simpa using given)
    intro word member
    obtain ⟨amount, among, rfl⟩ := List.mem_map.mp member
    exact blank_notMem_amountText (units amount among).2
  rw [amounts?, split]
  -- word for word from here on, where nothing depends on there being one
  clear split given
  induction amounts with
  | nil => rfl
  | cons amount rest ih =>
      obtain ⟨first, others⟩ := List.forall_mem_cons.mp units
      rw [List.map_cons, List.mapM_cons, amount?_amountText first.1, ih others]
      rfl

/-! ## Spans of time -/

/-- The amounts that a number of minutes is given as. -/
def spanAmounts (minutes : Nat) : List (Char × Nat) :=
  let hours := ('h', minutes % 1440 / 60)
  let rest := ('m', minutes % 60)
  if 0 < minutes / 1440 then [('d', minutes / 1440), hours, rest]
  else if 0 < minutes % 1440 / 60 then [hours, rest]
  else [rest]

/-- Only the whole minutes of a span show. -/
theorem span_eq (length : Nat) : span (some (length : Int)) =
    " ".intercalate ((spanAmounts (length / 60)).map amountText) := by
  have days : length / 86400 = length / 60 / 1440 := by omega
  have hours : length % 86400 / 3600 = length / 60 % 1440 / 60 := by omega
  have rest : length % 86400 % 3600 / 60 = length / 60 % 60 := by omega
  rw [span, if_neg (by omega), Int.toNat_natCast]
  dsimp only
  have units : String.singleton 'd' = "d" ∧ String.singleton 'h' = "h" ∧
      String.singleton 'm' = "m" := by decide
  have spaced : "d " = "d" ++ " " ∧ "h " = "h" ++ " " := by decide
  rw [days, hours, rest, spanAmounts]
  split
  case isTrue =>
    simp only [List.map_cons, List.map_nil, String.intercalate_cons_cons,
      String.intercalate_singleton, amountText, units, spaced, String.append_assoc]
  case isFalse =>
    split
    case isTrue =>
      simp only [List.map_cons, List.map_nil, String.intercalate_cons_cons,
        String.intercalate_singleton, amountText, units, spaced, String.append_assoc]
    case isFalse =>
      simp only [List.map_cons, List.map_nil, String.intercalate_singleton, amountText, units]

/-- Days, hours and minutes, the larger ones left out where there are none, that add up to a number
of minutes. -/
structure MakeUp (amounts : List (Char × Nat)) (minutes : Int) : Prop where
  units : (amounts.map Prod.fst).Sublist ['d', 'h', 'm']
  inDay : amountOf 'h' amounts < 24
  inHour : amountOf 'm' amounts < 60
  total : (1440 * amountOf 'd' amounts + 60 * amountOf 'h' amounts + amountOf 'm' amounts : Nat) =
    minutes
  noDays : 'd' ∉ amounts.map Prod.fst ↔ amountOf 'd' amounts = 0
  noHours : 'h' ∉ amounts.map Prod.fst ↔ amountOf 'd' amounts = 0 ∧ amountOf 'h' amounts = 0

theorem makeUp_spanAmounts (minutes : Nat) : MakeUp (spanAmounts minutes) minutes := by
  unfold spanAmounts
  dsimp only
  split
  case isTrue days =>
    constructor <;> simp [amountOf, List.lookup_cons] <;> omega
  case isFalse noDays =>
    split
    case isTrue hours =>
      constructor <;> simp [amountOf, List.lookup_cons] <;> omega
    case isFalse noHours =>
      constructor <;> simp [amountOf, List.lookup_cons] <;> omega

theorem amounts?_span (length : Nat) :
    amounts? (span (some (length : Int))) = some (spanAmounts (length / 60)) := by
  rw [span_eq]
  apply amounts?_intercalate
  · unfold spanAmounts
    dsimp only
    split
    · exact List.cons_ne_nil _ _
    · split <;> exact List.cons_ne_nil _ _
  · have units : ∀ unit ∈ ['d', 'h', 'm'], isDigit unit = false ∧ unit ≠ ' ' := by
      simp only [List.mem_cons, List.not_mem_nil, or_false, forall_eq_or_imp, forall_eq]
      decide
    intro amount member
    exact units amount.1
      ((makeUp_spanAmounts _).units.mem (List.mem_map_of_mem member))

theorem amounts?_dash : amounts? dash = none := by decide

/-- The text of a span of time gives its whole minutes, in days, hours and minutes, so two spans
have the same text exactly if they have the same whole minutes. What stands for no span, or for one
that is less than nothing, is no such text. -/
theorem span_reads_back :
    (∀ length : Int, 0 ≤ length → ∃ amounts, amounts? (span (some length)) = some amounts ∧
      MakeUp amounts (length / 60)) ∧
    (∀ first second : Int, 0 ≤ first → 0 ≤ second →
      (span (some first) = span (some second) ↔ first / 60 = second / 60)) ∧
    span none = dash ∧
    ∀ length : Int, span (some length) = dash ↔ length < 0 := by
  refine ⟨fun length given => ?read, fun first second firstGiven secondGiven => ?alike, rfl,
    fun length => ?dash⟩
  case read =>
    obtain ⟨length, rfl⟩ := Int.eq_ofNat_of_zero_le given
    exact ⟨_, amounts?_span length, makeUp_spanAmounts _⟩
  case alike =>
    obtain ⟨first, rfl⟩ := Int.eq_ofNat_of_zero_le firstGiven
    obtain ⟨second, rfl⟩ := Int.eq_ofNat_of_zero_le secondGiven
    constructor
    · intro same
      have read := amounts?_span first
      rw [same, amounts?_span second, Option.some_inj] at read
      have total := (makeUp_spanAmounts (first / 60)).total
      rw [← read, (makeUp_spanAmounts (second / 60)).total] at total
      exact total.symm
    · intro same
      have minutes : first / 60 = second / 60 := by omega
      rw [span_eq, span_eq, minutes]
  case dash =>
    constructor
    · intro dashed
      by_contra positive
      obtain ⟨length, rfl⟩ := Int.eq_ofNat_of_zero_le (Int.not_lt.mp positive)
      have read := amounts?_span length
      rw [dashed, amounts?_dash] at read
      cases read
    · exact fun negative => if_pos negative

theorem span_reads_back_sample :
    (0 : Int) ≤ 90061 ∧ (0 : Int) ≤ 90119 ∧ span (some 90061) = "1d 1h 1m" ∧
      (∃ amounts, amounts? (span (some 90061)) = some amounts ∧ MakeUp amounts (90061 / 60)) ∧
      span (some 90061) = span (some 90119) ∧ span (some (-1)) = dash := by
  have first : (0 : Int) ≤ 90061 := by decide
  have second : (0 : Int) ≤ 90119 := by decide
  obtain ⟨read, alike, -, dashed⟩ := span_reads_back
  exact ⟨first, second, by decide +kernel, read 90061 first,
    (alike 90061 90119 first second).mpr (by omega), (dashed (-1)).mpr (by omega)⟩

end NetConsole.Console
