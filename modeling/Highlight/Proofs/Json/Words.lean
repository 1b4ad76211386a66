import Highlight.Proofs.Json.Quoted
import Highlight.Proofs.Json.Syntax

/-!
# Where the other patterns match

Numbers and literal names stand between delimiters: white space, brackets, commas and colons. From
where such a word begins its pattern takes all of it, since the pattern asks for the end of a word
there and a delimiter ends one. The patterns for brackets, commas and colons take one character. None
of these patterns matches at a character with which none of its words begins.
-/

namespace Highlight.Json

open Highlight.Regex (Anchor Program Thread Settled Waiting Found advance advance_cons advance_nil)

/-- White space, a bracket, a comma or a colon. -/
def isDelimiter (c : Char) : Bool :=
  isWhite c || c == '[' || c == ']' || c == '\x7b' || c == '\x7d' || c == ',' || c == ':'

/-- No word goes on here: there is a delimiter, or nothing at all. -/
def Delimits (c : Option Char) : Prop := ∀ d, c = some d → isDelimiter d = true

/-- The letter in front of an exponent. -/
def letterE : CharSet := ⟨[(69, 69), (101, 101)]⟩

def plusMinus : CharSet := ⟨[(43, 43), (45, 45)]⟩

section Characters

variable {c d : Char} {o : Option Char}

/-- A decidable property of characters holds of those of a list, if a look at each one says so. -/
theorem forall_of_all {cs : List Char} {P : Char → Prop} [DecidablePred P]
    (h : (cs.all fun c => decide (P c)) = true) : ∀ c ∈ cs, P c := by
  intro c hc
  exact of_decide_eq_true (List.all_eq_true.mp h c hc)

theorem mem_of_isDelimiter (h : isDelimiter c = true) :
    c ∈ [' ', '\t', '\n', '\r', '[', ']', '\x7b', '\x7d', ',', ':'] := by
  simpa [isDelimiter, isWhite, or_assoc] using h

theorem mem_of_isDigit (h : d.isDigit = true) :
    d ∈ ['0', '1', '2', '3', '4', '5', '6', '7', '8', '9'] := by
  have hbounds : 48 ≤ d.toNat ∧ d.toNat ≤ 57 := by
    simp only [Char.isDigit, Bool.and_eq_true, decide_eq_true_eq, ge_iff_le,
      UInt32.le_iff_toNat_le] at h
    exact h
  obtain ⟨n, hn⟩ : ∃ n, d.toNat = 48 + n := ⟨d.toNat - 48, by omega⟩
  have hd : d = Char.ofNat (48 + n) := by rw [← hn, Char.ofNat_toNat]
  have hlt : n < 10 := by omega
  rw [hd]
  clear hd hn hbounds h
  decide +revert

theorem word_of_isDelimiter (h : isDelimiter c = true) : CharSet.word.contains c = false := by
  have hall : ∀ c ∈ [' ', '\t', '\n', '\r', '[', ']', '\x7b', '\x7d', ',', ':'],
      CharSet.word.contains c = false := forall_of_all (by decide)
  exact hall c (mem_of_isDelimiter h)

/-- How a digit looks to the pattern for numbers. -/
theorem digit_facts (h : d.isDigit = true) :
    CharSet.word.contains d = true ∧ CharSet.digit.contains d = true ∧
      letterE.contains d = false ∧ plusMinus.contains d = false ∧
      (CharSet.singleton '.').contains d = false ∧ (CharSet.singleton '-').contains d = false := by
  have hall : ∀ d ∈ ['0', '1', '2', '3', '4', '5', '6', '7', '8', '9'],
      CharSet.word.contains d = true ∧ CharSet.digit.contains d = true ∧
        letterE.contains d = false ∧ plusMinus.contains d = false ∧
        (CharSet.singleton '.').contains d = false ∧ (CharSet.singleton '-').contains d = false :=
    forall_of_all (by decide)
  exact hall d (mem_of_isDigit h)

/-- How a delimiter looks to the pattern for numbers. -/
theorem delimiter_facts (h : isDelimiter c = true) :
    CharSet.digit.contains c = false ∧ (CharSet.singleton '.').contains c = false ∧
      letterE.contains c = false := by
  have hall : ∀ c ∈ [' ', '\t', '\n', '\r', '[', ']', '\x7b', '\x7d', ',', ':'],
      CharSet.digit.contains c = false ∧ (CharSet.singleton '.').contains c = false ∧
        letterE.contains c = false :=
    forall_of_all (by decide)
  exact hall c (mem_of_isDelimiter h)

theorem any_word_of_isDigit (h : d.isDigit = true) :
    (some d).any CharSet.word.contains = true := (digit_facts h).1

theorem any_word_of_delimits (h : Delimits o) : o.any CharSet.word.contains = false := by
  cases o with
  | none => rfl
  | some c => exact word_of_isDelimiter (h c rfl)

end Characters

/-- From an instruction on the program takes all of a text, where `tail` comes behind it. -/
def Takes (p : Program) (state : Nat) (before : Option Char) (text tail : List Char) : Prop :=
  ∀ here best, p.follow (text ++ tail) before here [⟨state, [], []⟩] best =
    some ⟨here + text.length, ⟨0, [], []⟩⟩

/-- A character leads from one instruction to another one, and to no other. -/
def Leads (p : Program) (state : Nat) (before : Option Char) (c : Char) (next : Nat) : Prop :=
  ∀ here, advance c (p.settled before (some c) here [⟨state, [], []⟩]).waiting = [⟨next, [], []⟩]

/-- The program may stop at an instruction, and cannot go on. -/
def Stops (p : Program) (state : Nat) (before after : Option Char) : Prop :=
  ∀ here, (p.settled before after here [⟨state, [], []⟩]).accepted = some ⟨0, [], []⟩ ∧
    ∀ c, after = some c → advance c (p.settled before after here [⟨state, [], []⟩]).waiting = []

section Takes

variable {p : Program} {state next : Nat} {before : Option Char} {c : Char} {text tail : List Char}

theorem Leads.takes (h : Leads p state before c next) (htext : Takes p next (some c) text tail) :
    Takes p state before (c :: text) tail := by
  intro here best
  have htake := htext (here + 1) ((p.settled before (some c) here [⟨state, [], []⟩]).bestAt here best)
  rw [List.cons_append, Program.follow_go rfl (h here), htake, List.length_cons, Nat.add_right_comm,
    Nat.add_assoc]

theorem Stops.takes (h : Stops p state before tail.head?) : Takes p state before [] tail := by
  intro here best
  obtain ⟨haccepted, hstuck⟩ := h here
  cases tail with
  | nil =>
    rw [List.append_nil, Program.follow_nil, Regex.Settled.bestAt]
    rw [List.head?_nil] at haccepted
    rw [haccepted]
    rfl
  | cons c tail =>
    rw [List.head?_cons] at haccepted hstuck
    rw [List.nil_append, Program.follow_stop rfl (hstuck c rfl), Regex.Settled.bestAt, haccepted]
    rfl

end Takes

section Number

theorem program_number : number.regex.program =
    ⟨#[.accept, .check (.wordBoundary .word) 0, .split 3 1, .consume .digit 2, .consume plusMinus 3,
      .split 4 3, .consume letterE 5, .split 6 1, .split 9 7, .consume .digit 8,
      .consume (.singleton '.') 9, .split 10 7, .split 13 11, .consume .digit 12,
      .check (.wordBoundary .word) 13, .consume (.singleton '-') 14, .split 15 14], 16⟩ := rfl

variable {before : Option Char} {d : Char} {ds tail : List Char}

theorem leads_digit (hd : d.isDigit = true) {state next : Nat}
    (h : (state, next) ∈ [(12, 12), (9, 8), (8, 8), (5, 2), (3, 2), (2, 2)]) :
    Leads number.regex.program state before d next := by
  obtain ⟨hword, hdigit, hletter, hsign, hpoint, -⟩ := digit_facts hd
  intro here
  rw [program_number]
  simp only [List.mem_cons, Prod.mk.injEq, List.not_mem_nil, or_false] at h
  rcases h with ⟨rfl, rfl⟩ | ⟨rfl, rfl⟩ | ⟨rfl, rfl⟩ | ⟨rfl, rfl⟩ | ⟨rfl, rfl⟩ | ⟨rfl, rfl⟩
  all_goals
    cases hbefore : before.any CharSet.word.contains <;>
      simp [Program.settled, Program.settle, Program.settleFuel, Thread.goto, Anchor.holds, hbefore,
        hword, hdigit, hletter, hsign, hpoint]

/-- The first digit, at the beginning of a word or behind a minus sign. -/
theorem leads_first (hbefore : before.any CharSet.word.contains = false) (hd : d.isDigit = true)
    {state : Nat} (h : state ∈ [16, 14]) : Leads number.regex.program state before d 12 := by
  obtain ⟨hword, hdigit, -, -, -, hminus⟩ := digit_facts hd
  intro here
  rw [program_number]
  simp only [List.mem_cons, List.not_mem_nil, or_false] at h
  rcases h with rfl | rfl
  all_goals
    simp [Program.settled, Program.settle, Program.settleFuel, Thread.goto, Anchor.holds, hbefore,
      hword, hdigit, hminus]

theorem leads_minus (hbefore : before.any CharSet.word.contains = false) :
    Leads number.regex.program 16 before '-' 14 := by
  have hword : CharSet.word.contains '-' = false := by decide
  have hminus : (CharSet.singleton '-').contains '-' = true := by decide
  intro here
  rw [program_number]
  simp [Program.settled, Program.settle, Program.settleFuel, Thread.goto, Anchor.holds, hbefore,
    hword, hminus]

theorem leads_point (hbefore : before.any CharSet.word.contains = true) :
    Leads number.regex.program 12 before '.' 9 := by
  have hword : CharSet.word.contains '.' = false := by decide
  have hdigit : CharSet.digit.contains '.' = false := by decide
  have hpoint : (CharSet.singleton '.').contains '.' = true := by decide
  have hletter : letterE.contains '.' = false := by decide
  intro here
  rw [program_number]
  simp [Program.settled, Program.settle, Program.settleFuel, Thread.goto, Anchor.holds, hbefore,
    hword, hdigit, hpoint, hletter]

theorem leads_letter (hbefore : before.any CharSet.word.contains = true) {e : Char}
    (he : e = 'e' ∨ e = 'E') {state : Nat} (h : state ∈ [12, 8]) :
    Leads number.regex.program state before e 5 := by
  have hfacts : CharSet.word.contains e = true ∧ CharSet.digit.contains e = false ∧
      (CharSet.singleton '.').contains e = false ∧ letterE.contains e = true := by
    rcases he with rfl | rfl <;> decide
  obtain ⟨hword, hdigit, hpoint, hletter⟩ := hfacts
  intro here
  rw [program_number]
  simp only [List.mem_cons, List.not_mem_nil, or_false] at h
  rcases h with rfl | rfl
  all_goals
    simp [Program.settled, Program.settle, Program.settleFuel, Thread.goto, Anchor.holds, hbefore,
      hword, hdigit, hpoint, hletter]

theorem leads_sign {c : Char} (hc : c = '+' ∨ c = '-') : Leads number.regex.program 5 before c 3 := by
  have hfacts : CharSet.digit.contains c = false ∧ plusMinus.contains c = true := by
    rcases hc with rfl | rfl <;> decide
  obtain ⟨hdigit, hsign⟩ := hfacts
  intro here
  rw [program_number]
  simp [Program.settled, Program.settle, Program.settleFuel, Thread.goto, hdigit, hsign]

/-- A number may end behind any digit, where a delimiter comes next. -/
theorem stops_number (hbefore : before.any CharSet.word.contains = true) {after : Option Char}
    (hafter : Delimits after) {state : Nat} (h : state ∈ [12, 8, 2]) :
    Stops number.regex.program state before after := by
  have hword := any_word_of_delimits hafter
  intro here
  rw [program_number]
  simp only [List.mem_cons, List.not_mem_nil, or_false] at h
  constructor
  · rcases h with rfl | rfl | rfl
    all_goals
      simp [Program.settled, Program.settle, Program.settleFuel, Thread.goto, Anchor.holds, hbefore,
        hword]
  · rintro c rfl
    obtain ⟨hdigit, hpoint, hletter⟩ := delimiter_facts (hafter c rfl)
    rcases h with rfl | rfl | rfl
    all_goals
      simp [Program.settled, Program.settle, Program.settleFuel, Thread.goto, Anchor.holds, hbefore,
        hword, hdigit, hpoint, hletter]

theorem takes_end (hbefore : before.any CharSet.word.contains = true) (htail : Delimits tail.head?)
    {state : Nat} (h : state ∈ [12, 8, 2]) : Takes number.regex.program state before [] tail :=
  (stops_number hbefore htail h).takes

/-- More digits, from an instruction that comes back to itself. -/
theorem takes_more {state : Nat} (h : state ∈ [12, 8, 2])
    (hds : ∀ d ∈ ds, d.isDigit = true) (hbefore : before.any CharSet.word.contains = true)
    {text : List Char} (htext : ∀ before : Option Char, before.any CharSet.word.contains = true →
      Takes number.regex.program state before text tail) :
    Takes number.regex.program state before (ds ++ text) tail := by
  induction ds generalizing before with
  | nil => exact htext before hbefore
  | cons d ds ih =>
    obtain ⟨hd, hds⟩ := List.forall_mem_cons.mp hds
    have hsteps : ∀ s ∈ [12, 8, 2], (s, s) ∈ [(12, 12), (9, 8), (8, 8), (5, 2), (3, 2), (2, 2)] := by
      decide
    have hleads : Leads number.regex.program state before d state := leads_digit hd (hsteps _ h)
    exact hleads.takes (ih hds (any_word_of_isDigit hd))

/-- One digit or more. -/
theorem takes_digits {state next : Nat} (h : (state, next) ∈ [(9, 8), (5, 2), (3, 2)])
    (hds : Digits ds) {text : List Char}
    (htext : ∀ before : Option Char, before.any CharSet.word.contains = true →
      Takes number.regex.program next before text tail) :
    Takes number.regex.program state before (ds ++ text) tail := by
  obtain ⟨hne, hall⟩ := hds
  cases ds with
  | nil => exact absurd rfl hne
  | cons d ds =>
    obtain ⟨hd, hds⟩ := List.forall_mem_cons.mp hall
    have hsteps : ∀ s ∈ [(9, 8), (5, 2), (3, 2)],
        s ∈ [(12, 12), (9, 8), (8, 8), (5, 2), (3, 2), (2, 2)] ∧ s.2 ∈ [12, 8, 2] := by
      decide
    have hleads : Leads number.regex.program state before d next := leads_digit hd (hsteps _ h).1
    exact hleads.takes (takes_more (hsteps _ h).2 hds (any_word_of_isDigit hd) htext)

theorem takes_exponent (hbefore : before.any CharSet.word.contains = true)
    (htail : Delimits tail.head?) {exp : List Char} (hexp : IsExponent exp) {state : Nat}
    (h : state ∈ [12, 8]) : Takes number.regex.program state before exp tail := by
  have hend : ∀ before : Option Char, before.any CharSet.word.contains = true →
      Takes number.regex.program 2 before [] tail := fun _ hb => takes_end hb htail (by simp)
  cases hexp with
  | none => exact takes_end hbefore htail (List.mem_append_left [2] h)
  | @digits e sign ds he hsign hds =>
    refine (leads_letter hbefore he h).takes ?_
    rcases hsign with rfl | hsign
    · rw [List.nil_append, ← List.append_nil ds]
      exact takes_digits (by simp) hds hend
    · obtain ⟨c, rfl, hc⟩ : ∃ c, sign = [c] ∧ (c = '+' ∨ c = '-') := by
        rcases hsign with rfl | rfl
        · exact ⟨'+', rfl, .inl rfl⟩
        · exact ⟨'-', rfl, .inr rfl⟩
      rw [List.singleton_append, ← List.append_nil ds]
      exact (leads_sign hc).takes (takes_digits (by simp) hds hend)

theorem takes_fraction (hbefore : before.any CharSet.word.contains = true)
    (htail : Delimits tail.head?) {frac exp : List Char} (hfrac : IsFraction frac)
    (hexp : IsExponent exp) : Takes number.regex.program 12 before (frac ++ exp) tail := by
  cases hfrac with
  | none => exact takes_exponent hbefore htail hexp (by simp)
  | digits hds =>
    rw [List.cons_append]
    have hnext : (9, 8) ∈ [(9, 8), (5, 2), (3, 2)] := by simp
    exact (leads_point hbefore).takes
      (takes_digits hnext hds fun _ hb => takes_exponent hb htail hexp (by simp))

theorem IsInteger.toDigits {int : List Char} (h : IsInteger int) : Digits int := by
  cases h with
  | zero => exact ⟨List.cons_ne_nil _ _, by simp⟩
  | digits hd _ hds => exact ⟨List.cons_ne_nil _ _, List.forall_mem_cons.mpr ⟨hd, hds⟩⟩

theorem takes_integer (hbefore : before.any CharSet.word.contains = false)
    (htail : Delimits tail.head?) {int frac exp : List Char} (hint : IsInteger int)
    (hfrac : IsFraction frac) (hexp : IsExponent exp) {state : Nat} (h : state ∈ [16, 14]) :
    Takes number.regex.program state before (int ++ (frac ++ exp)) tail := by
  obtain ⟨hne, hall⟩ := hint.toDigits
  cases int with
  | nil => exact absurd rfl hne
  | cons d ds =>
    obtain ⟨hd, hds⟩ := List.forall_mem_cons.mp hall
    exact (leads_first hbefore hd h).takes (takes_more (by simp) hds (any_word_of_isDigit hd)
      fun _ hb => takes_fraction hb htail hfrac hexp)

/-- The pattern for numbers takes a whole number. -/
theorem takes_number (hbefore : before.any CharSet.word.contains = false)
    (htail : Delimits tail.head?) {t : List Char} (ht : IsNumber t) :
    Takes number.regex.program 16 before t tail := by
  obtain ⟨hminus, hint, hfrac, hexp⟩ := ht
  rcases hminus with rfl | rfl
  · exact takes_integer hbefore htail hint hfrac hexp (by simp)
  · rw [List.singleton_append]
    exact (leads_minus hbefore).takes
      (takes_integer (by decide) htail hint hfrac hexp (by simp))

end Number

section Literals

variable {before : Option Char} {tail : List Char}

theorem program_boolean : boolean.regex.program =
    ⟨#[.accept, .check (.wordBoundary .word) 0, .consume (.singleton 'e') 1,
      .consume (.singleton 'u') 2, .consume (.singleton 'r') 3, .consume (.singleton 't') 4,
      .consume (.singleton 'e') 1, .consume (.singleton 's') 6, .consume (.singleton 'l') 7,
      .consume (.singleton 'a') 8, .consume (.singleton 'f') 9, .split 10 5,
      .check (.wordBoundary .word) 11], 12⟩ := rfl

theorem program_null : null.regex.program =
    ⟨#[.accept, .check (.wordBoundary .word) 0, .consume (.singleton 'l') 1,
      .consume (.singleton 'l') 2, .consume (.singleton 'u') 3, .consume (.singleton 'n') 4,
      .check (.wordBoundary .word) 5], 6⟩ := rfl

/-- A literal begins where a word begins. -/
theorem opens_boolean (hbefore : before.any CharSet.word.contains = false) {c : Char}
    (hc : CharSet.word.contains c = true) (here : Nat) :
    boolean.regex.program.settled before (some c) here [⟨12, [], []⟩] =
      ⟨[⟨.singleton 'f', ⟨9, [], []⟩⟩, ⟨.singleton 't', ⟨4, [], []⟩⟩], none⟩ := by
  rw [program_boolean]
  simp [Program.settled, Program.settle, Program.settleFuel, Thread.goto, Anchor.holds, hbefore, hc]

theorem opens_null (hbefore : before.any CharSet.word.contains = false) {c : Char}
    (hc : CharSet.word.contains c = true) (here : Nat) :
    null.regex.program.settled before (some c) here [⟨6, [], []⟩] =
      ⟨[⟨.singleton 'n', ⟨4, [], []⟩⟩], none⟩ := by
  rw [program_null]
  simp [Program.settled, Program.settle, Program.settleFuel, Thread.goto, Anchor.holds, hbefore, hc]

/-- A literal ends where a word ends. -/
theorem stops_literal {p : Program} (hp : p ∈ [boolean.regex.program, null.regex.program])
    (hbefore : before.any CharSet.word.contains = true) {after : Option Char}
    (hafter : Delimits after) : Stops p 1 before after := by
  have hword := any_word_of_delimits hafter
  have hsettled : ∀ here, p.settled before after here [⟨1, [], []⟩] = ⟨[], some ⟨0, [], []⟩⟩ := by
    intro here
    simp only [List.mem_cons, List.not_mem_nil, or_false] at hp
    rcases hp with rfl | rfl
    · rw [program_boolean]
      simp [Program.settled, Program.settle, Program.settleFuel, Thread.goto, Anchor.holds, hbefore,
        hword]
    · rw [program_null]
      simp [Program.settled, Program.settle, Program.settleFuel, Thread.goto, Anchor.holds, hbefore,
        hword]
  intro here
  rw [hsettled]
  exact ⟨rfl, fun _ _ => rfl⟩

theorem takes_false (hbefore : before.any CharSet.word.contains = false)
    (htail : Delimits tail.head?) :
    Takes boolean.regex.program 12 before ['f', 'a', 'l', 's', 'e'] tail := by
  have hf : Leads boolean.regex.program 12 before 'f' 9 := by
    intro here
    rw [opens_boolean hbefore (by decide)]
    rfl
  have ha : Leads boolean.regex.program 9 (some 'f') 'a' 8 := fun _ => rfl
  have hl : Leads boolean.regex.program 8 (some 'a') 'l' 7 := fun _ => rfl
  have hs : Leads boolean.regex.program 7 (some 'l') 's' 6 := fun _ => rfl
  have he : Leads boolean.regex.program 6 (some 's') 'e' 1 := fun _ => rfl
  have hstops : Stops boolean.regex.program 1 (some 'e') tail.head? :=
    stops_literal (by simp) (by decide) htail
  exact hf.takes (ha.takes (hl.takes (hs.takes (he.takes hstops.takes))))

theorem takes_true (hbefore : before.any CharSet.word.contains = false)
    (htail : Delimits tail.head?) :
    Takes boolean.regex.program 12 before ['t', 'r', 'u', 'e'] tail := by
  have ht : Leads boolean.regex.program 12 before 't' 4 := by
    intro here
    rw [opens_boolean hbefore (by decide)]
    rfl
  have hr : Leads boolean.regex.program 4 (some 't') 'r' 3 := fun _ => rfl
  have hu : Leads boolean.regex.program 3 (some 'r') 'u' 2 := fun _ => rfl
  have he : Leads boolean.regex.program 2 (some 'u') 'e' 1 := fun _ => rfl
  have hstops : Stops boolean.regex.program 1 (some 'e') tail.head? :=
    stops_literal (by simp) (by decide) htail
  exact ht.takes (hr.takes (hu.takes (he.takes hstops.takes)))

theorem takes_null (hbefore : before.any CharSet.word.contains = false)
    (htail : Delimits tail.head?) :
    Takes null.regex.program 6 before ['n', 'u', 'l', 'l'] tail := by
  have hn : Leads null.regex.program 6 before 'n' 4 := by
    intro here
    rw [opens_null hbefore (by decide)]
    rfl
  have hu : Leads null.regex.program 4 (some 'n') 'u' 3 := fun _ => rfl
  have hl : Leads null.regex.program 3 (some 'u') 'l' 2 := fun _ => rfl
  have hl' : Leads null.regex.program 2 (some 'l') 'l' 1 := fun _ => rfl
  have hstops : Stops null.regex.program 1 (some 'l') tail.head? :=
    stops_literal (by simp) (by decide) htail
  exact hn.takes (hu.takes (hl.takes (hl'.takes hstops.takes)))

/-- A bracket or a comma is all that its pattern takes. -/
theorem takes_sign {c : Char} (hc : c ∈ ['[', ']', '\x7b', '\x7d', ',']) :
    Takes punctuation.regex.program 1 before [c] tail := by
  have hsign : ∀ c ∈ ['[', ']', '\x7b', '\x7d', ','], sign.contains c = true :=
    forall_of_all (by decide)
  have hleads : Leads punctuation.regex.program 1 before c 0 := by
    intro here
    have hsettled : punctuation.regex.program.settled before (some c) here [⟨1, [], []⟩] =
        ⟨[⟨sign, ⟨0, [], []⟩⟩], none⟩ := rfl
    rw [hsettled, advance_cons, if_pos (hsign c hc), advance_nil]
  have hstops : Stops punctuation.regex.program 0 (some c) tail.head? :=
    fun _ => ⟨rfl, fun _ _ => rfl⟩
  exact hleads.takes hstops.takes

theorem takes_colon : Takes operator.regex.program 1 before [':'] tail := by
  have hleads : Leads operator.regex.program 1 before ':' 0 := fun _ => rfl
  have hstops : Stops operator.regex.program 0 (some ':') tail.head? :=
    fun _ => ⟨rfl, fun _ _ => rfl⟩
  exact hleads.takes hstops.takes

end Literals

section Refuses

/-- Nothing that begins with a character is matched, or nothing at all where the text ends. -/
def Refuses (p : Program) (o : Option Char) : Prop :=
  ∀ before, (p.settled before o 0 [⟨p.start, [], []⟩]).accepted = none ∧
    ∀ c, o = some c → advance c (p.settled before o 0 [⟨p.start, [], []⟩]).waiting = []

/-- A match begins with a character of one of some sets. -/
def AsksFor (p : Program) (sets : List CharSet) : Prop :=
  ∀ before after, (p.settled before after 0 [⟨p.start, [], []⟩]).accepted = none ∧
    ∀ w ∈ (p.settled before after 0 [⟨p.start, [], []⟩]).waiting, w.set ∈ sets

theorem Refuses.hitAt {p : Pattern} (text : List Char) (h : Refuses p.regex.program text.head?)
    (before : Option Char) : p.hitAt before text = none := by
  obtain ⟨haccepted, hstuck⟩ := h before
  refine hitAt_eq_none ?_
  cases text with
  | nil =>
    rw [List.head?_nil] at haccepted
    rw [Program.follow_nil, Regex.Settled.bestAt, haccepted]
  | cons c text =>
    rw [List.head?_cons] at haccepted hstuck
    rw [Program.follow_stop rfl (hstuck c rfl), Regex.Settled.bestAt, haccepted]

theorem AsksFor.refuses {p : Program} {sets : List CharSet} (h : AsksFor p sets) {o : Option Char}
    (ho : ∀ c, o = some c → ∀ s ∈ sets, s.contains c = false) : Refuses p o := by
  intro before
  obtain ⟨haccepted, hwaiting⟩ := h before o
  refine ⟨haccepted, fun c hc => ?_⟩
  rw [advance, List.filterMap_eq_nil_iff]
  intro w hw
  rw [if_neg (by simp [ho c hc _ (hwaiting w hw)])]

theorem asks_number : AsksFor number.regex.program [.digit, .singleton '-'] := by
  intro before after
  rw [program_number]
  cases hbefore : before.any CharSet.word.contains <;>
    cases hafter : after.any CharSet.word.contains
  all_goals
    simp [Program.settled, Program.settle, Program.settleFuel, Thread.goto, Anchor.holds, hbefore,
      hafter]

theorem asks_boolean : AsksFor boolean.regex.program [.singleton 'f', .singleton 't'] := by
  intro before after
  rw [program_boolean]
  cases hbefore : before.any CharSet.word.contains <;>
    cases hafter : after.any CharSet.word.contains
  all_goals
    simp [Program.settled, Program.settle, Program.settleFuel, Thread.goto, Anchor.holds, hbefore,
      hafter]

theorem asks_null : AsksFor null.regex.program [.singleton 'n'] := by
  intro before after
  rw [program_null]
  cases hbefore : before.any CharSet.word.contains <;>
    cases hafter : after.any CharSet.word.contains
  all_goals
    simp [Program.settled, Program.settle, Program.settleFuel, Thread.goto, Anchor.holds, hbefore,
      hafter]

theorem asks_sign : AsksFor punctuation.regex.program [sign] := by
  intro before after
  have hsettled : punctuation.regex.program.settled before after 0 [⟨1, [], []⟩] =
      ⟨[⟨sign, ⟨0, [], []⟩⟩], none⟩ := rfl
  rw [show punctuation.regex.program.start = 1 from rfl, hsettled]
  exact ⟨rfl, by simp⟩

theorem asks_colon : AsksFor operator.regex.program [.singleton ':'] := by
  intro before after
  have hsettled : operator.regex.program.settled before after 0 [⟨1, [], []⟩] =
      ⟨[⟨.singleton ':', ⟨0, [], []⟩⟩], none⟩ := rfl
  rw [show operator.regex.program.start = 1 from rfl, hsettled]
  exact ⟨rfl, by simp⟩

theorem program_comment : comment.regex.program =
    ⟨#[.accept, .check .textEnd 0, .consume (.singleton '/') 0, .consume (.singleton '*') 2,
      .split 3 1, .split 4 6, .consume ⟨[(0, 1114111)]⟩ 5, .consume (.singleton '*') 5,
      .consume (.singleton '/') 7, .split 10 0, .consume noLineFeed 9, .consume (.singleton '/') 9,
      .consume (.singleton '/') 11, .split 12 8], 13⟩ := rfl

theorem asks_comment : AsksFor comment.regex.program [.singleton '/'] := by
  intro before after
  rw [program_comment]
  simp [Program.settled, Program.settle, Program.settleFuel, Thread.goto]

end Refuses

section Hit

/-- What a program takes is a hit, if its pattern asks for no context. -/
theorem Takes.hitAt {p : Pattern} (hbehind : p.lookbehind = none) (hahead : p.lookahead = none)
    {before : Option Char} {text tail : List Char}
    (h : Takes p.regex.program p.regex.program.start before text tail) (hne : text ≠ []) :
    ∃ hit, p.hitAt before (text ++ tail) = some hit ∧ hit.token = ⟨0, text.length⟩ := by
  have hpos := List.length_pos_iff.mpr hne
  refine hitAt_eq_some (h 0 none) ?_ hpos
  rw [PatternWith.tokenSpan, hbehind, hahead, Nat.zero_add]
  rfl

end Hit

end Highlight.Json
