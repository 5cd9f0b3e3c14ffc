import ReplicaSync.Pattern.Basic

/-!
# Searching a text for a pattern

A search begins at every place of the text, and one that began earlier is preferred. The text is
gone through once, with an ordered list of plans: what is still to be found from here on, the
preferred plan first. At each place the plans lead to others, and each of those is kept where it
was reached first. A plan that has come to its end is a match, and the plans behind it are given up.
-/

namespace ReplicaSync.Pattern

/-! ### Plans -/

/-- A step of a plan. -/
inductive Task where
  | find (pattern : Pattern)
  /-- A round of a repetition is over; perhaps there is another one. -/
  | again (isGreedy : Bool) (body : Pattern)
  deriving DecidableEq, Repr

/-- What is still to be done, in order. The empty plan is a match. -/
abbrev Plan := List Task

/-- Two ways to go on, the first one preferred if the repetition is greedy. -/
def inOrder (isGreedy : Bool) (round rest : Plan) : List Plan :=
  if isGreedy then [round, rest] else [rest, round]

/-- What comes behind a round of a repetition that may be left out. If every round takes
a character, it is the repetition as it was at first. Otherwise it is told apart from that, so that
a round in which nothing was found leads on to the rest. -/
def nextRound (isGreedy : Bool) (body : Pattern) : Task :=
  if body.takesCharacter then .find (.repeated .many isGreedy body) else .again isGreedy body

/-- How a plan can go on without a character, where these places are given. -/
def continuations (holds : Place → Bool) : Plan → List Plan
  | [] => []
  | .again isGreedy body :: rest =>
    inOrder isGreedy (.find body :: .again isGreedy body :: rest) rest
  | .find pattern :: rest =>
    match pattern with
    | .empty => [rest]
    | .literal chars => if chars = [] then [rest] else []
    | .one _ _ => []
    | .at place => if holds place then [rest] else []
    | .repeated .optional isGreedy body => inOrder isGreedy (.find body :: rest) rest
    | .repeated .many isGreedy body =>
      inOrder isGreedy (.find body :: nextRound isGreedy body :: rest) rest
    | .repeated .oneOrMore isGreedy body => [.find body :: .again isGreedy body :: rest]
    | .group _ body => [.find body :: rest]
    | .both first second => [.find first :: .find second :: rest]
    | .either first second => [.find first :: rest, .find second :: rest]

/-! ### The plans at a place -/

/-- A bound for the number of plans that a pattern goes through. -/
def size : Pattern → Nat
  | .empty | .one _ _ | .at _ => 1
  | .literal chars => chars.length + 1
  | .repeated _ _ body => body.size + 2
  | .group _ body => body.size + 1
  | .both first rest | .either first rest => first.size + rest.size + 1

def Task.size : Task → Nat
  | .find pattern => pattern.size
  | .again _ body => body.size + 2

/-- A bound for the number of plans that a plan goes through. -/
def planSize (plan : Plan) : Nat := (plan.map Task.size).foldl Nat.add 1

/-- Goes through plans and their continuations in the order of preference, each once, in at most
so many steps. A plan is kept with its size, which tells most plans apart. -/
def explore (holds : Place → Bool) : Nat → List Plan → List (Nat × Plan) → List (Nat × Plan)
  | 0, _, seen => seen
  | _, [], seen => seen
  | steps + 1, plan :: rest, seen =>
    let measured := (planSize plan, plan)
    if seen.contains measured then explore holds steps rest seen
    else explore holds steps (continuations holds plan ++ rest) (measured :: seen)

/-- The plans at a place, with all that they lead to there, the preferred ones first. A plan goes on
in two ways at most, so three steps for each plan on the way are enough. -/
def reached (holds : Place → Bool) (plans : List Plan) : List Plan :=
  let bound := (plans.map planSize).foldl Nat.add 0
  ((explore holds (3 * bound + 1) plans []).map Prod.snd).reverse

/-! ### From place to place -/

/-- What is left of a plan behind a character. -/
def behind? (c : Char) : Plan → Option Plan
  | .find (.literal (d :: chars)) :: rest =>
    if c = d then some (.find (.literal chars) :: rest) else none
  | .find (.one _ set) :: rest => if set.contains c then some rest else none
  | _ => none

/-- The plans behind a character. A match hides the plans that come after it. -/
def step (behind : Option Char) (c : Char) (plans : List Plan) : List Plan :=
  let preferred := (reached (Place.holds behind (some c)) plans).takeWhile (· ≠ [])
  preferred.filterMap (behind? c)

/-- The search finds a match that ends with the text. -/
def reachesEnd (behind : Option Char) : List Plan → List Char → Bool
  | plans, [] => (reached (Place.holds behind none) plans).contains []
  | plans, c :: rest => reachesEnd (some c) (step behind c plans) rest

/-- Whatever comes in front of a match, and as little of it as possible. -/
def lead : Pattern := .repeated .many false (.one true .all)

/-- The first match in the text, and the preferred one there, ends with the text. -/
def endsText (pattern : Pattern) (text : String) : Bool :=
  reachesEnd none [[.find lead, .find pattern]] text.toList

end ReplicaSync.Pattern
