set_option autoImplicit false

namespace QueryGroup.Command.Terminal

def escape : Char := Char.ofNat 0x1B

def bell : Char := Char.ofNat 7

def isCancel (c : Char) : Bool := c.toNat == 0x18 || c.toNat == 0x1A

/-- The control characters that are text all the same. -/
def isLayout (c : Char) : Bool := c == '\t' || c == '\n' || c.toNat == 0xC || c == '\r'

def isShown (c : Char) : Bool :=
  (0x20 ≤ c.toNat && c.toNat ≤ 0x7E) || 0x80 ≤ c.toNat || isLayout c

inductive Part where
  /-- Behind the escape character. -/
  | opening
  /-- Behind the first of several characters that name a code. -/
  | naming
  /-- A code with arguments, up to a letter. -/
  | arguments
  | deviceOpening
  | deviceArguments
  | deviceNaming
  /-- A string for the device. -/
  | string
  /-- A string that a bell may end, such as a title. -/
  | title
deriving DecidableEq, Repr

namespace Part

def showsLayout : Part → Bool
  | opening | naming | arguments => true
  | deviceOpening | deviceArguments | deviceNaming | string | title => false

def endsString (c : Char) : Bool := (String.utf8EncodeChar c).contains 0x9C

/-- The part behind a character, if the code does not end there. -/
def next? (part : Part) (c : Char) : Option Part :=
  let n := c.toNat
  match part with
  | opening =>
      if 0x20 ≤ n ∧ n ≤ 0x2F then some naming
      else if c = '[' then some arguments
      else if c = ']' then some title
      else if c = 'P' then some deviceOpening
      else if c = 'X' ∨ c = '^' ∨ c = '_' then some string
      else if 0x30 ≤ n ∧ n ≤ 0x7E then none
      else some opening
  | naming => if 0x30 ≤ n ∧ n ≤ 0x7E then none else some naming
  | arguments => if 0x40 ≤ n ∧ n ≤ 0x7E then none else some arguments
  | deviceOpening =>
      if 0x20 ≤ n ∧ n ≤ 0x2F then some deviceNaming
      else if 0x30 ≤ n ∧ n ≤ 0x3F then some deviceArguments
      else if 0x40 ≤ n ∧ n ≤ 0x7E then some string
      else some deviceOpening
  | deviceArguments =>
      if 0x20 ≤ n ∧ n ≤ 0x2F then some deviceNaming
      else if 0x3C ≤ n ∧ n ≤ 0x7E then some string
      else some deviceArguments
  | deviceNaming => if 0x30 ≤ n ∧ n ≤ 0x7E then some string else some deviceNaming
  | string => if endsString c then none else some string
  | title => if c = bell then none else some title

end Part

inductive State where
  | text
  | code (part : Part)
  /-- Text behind a line break or tab inside of a code. The next character that is not shown
  goes on with the code. -/
  | broken (part : Part)
deriving DecidableEq, Repr

def step (state : State) (c : Char) : State × Bool :=
  if c = escape then (.code .opening, false)
  else if isCancel c then (.text, false)
  else
    match state with
    | .text => (.text, isShown c)
    | .code part =>
        if part.showsLayout && isLayout c then (.broken part, true)
        else
          match part.next? c with
          | some part => (.code part, false)
          | none => (.text, false)
    | .broken part =>
        if 0x80 ≤ c.toNat then (.text, true)
        else if isShown c then (.broken part, true)
        else (.code part, false)

def shown : State → List Char → List Char
  | _, [] => []
  | state, c :: rest =>
      let (state, isKept) := step state c
      if isKept then c :: shown state rest else shown state rest

/-- The text as it is written where no terminal takes the codes. -/
def plain (text : String) : String := .ofList (shown .text text.toList)

theorem isCancel_of_isShown {c : Char} (isText : isShown c = true) : isCancel c = false := by
  cases cancel : isCancel c with
  | false => rfl
  | true =>
    simp only [isCancel, Bool.or_eq_true, beq_iff_eq] at cancel
    rcases cancel with same | same
    · have same : c = Char.ofNat 0x18 := Char.toNat_inj.mp same
      exact absurd isText (by subst same; decide)
    · have same : c = Char.ofNat 0x1A := Char.toNat_inj.mp same
      exact absurd isText (by subst same; decide)

theorem step_of_isShown {c : Char} (isText : isShown c = true) : step .text c = (.text, true) := by
  have notEscape : c ≠ escape := by
    intro same
    subst same
    exact absurd isText (by decide)
  simp only [step, notEscape, if_false, isCancel_of_isShown isText, Bool.false_eq_true, isText]

/-- A text without control characters is shown as it is. -/
theorem shown_eq_self {text : List Char} (isText : ∀ c ∈ text, isShown c = true) :
    shown .text text = text := by
  induction text with
  | nil => rfl
  | cons c rest ih =>
    simp only [shown, step_of_isShown (isText c List.mem_cons_self), if_true,
      ih fun d member => isText d (List.mem_cons_of_mem c member)]

/-- Nothing but text is shown. -/
theorem isShown_of_mem_shown {c : Char} {state : State} {text : List Char}
    (member : c ∈ shown state text) : isShown c = true := by
  induction text generalizing state with
  | nil => simp [shown] at member
  | cons d rest ih =>
    have kept : (step state d).2 = true → isShown d = true := by
      simp only [step]
      intro isKept
      split at isKept
      · cases isKept
      · split at isKept
        · cases isKept
        · split at isKept
          · exact isKept
          · split at isKept
            · rename_i layout
              simp only [isShown, (Bool.and_eq_true _ _ ▸ layout).2, Bool.or_true]
            · split at isKept <;> cases isKept
          · split at isKept
            · rename_i beyond
              simp only [isShown, beyond, decide_true, Bool.or_true, Bool.true_or]
            · split at isKept
              · assumption
              · cases isKept
    simp only [shown] at member
    split at member
    · rename_i isKept
      rcases List.mem_cons.mp member with same | later
      · exact same ▸ kept isKept
      · exact ih later
    · exact ih member

end QueryGroup.Command.Terminal
