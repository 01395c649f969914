import FunctionManual.Syntax.Parser

/-!
# The grammar of programs

    program    = [separators] [statement (separators statement)* [separators]]
    statement  = [(name | path) "="] expression
    expression = literal | name | path | "(" expression ")" | "[" items "]" | "{" entries "}"
               | name ["!"] "(" arguments ")"
    path       = "." [identifier ("." identifier)*]
    items      = [expression ("," expression)* [","]]
    entries    = [entry ("," entry)* [","]]             entry    = string ":" expression
    arguments  = [argument ("," argument)*  [","]]      argument = [identifier ":"] expression

A name is an identifier that is no keyword. The first identifier of a path touches its point.
Separators are newlines and semicolons, at least one between two statements.

* `Literal`: the value of a token that stands for itself.
* `Derives`: the tokens of expressions and of their parts, with their trees.
* `DerivesStatement`, `DerivesProgram`: the tokens of statements and programs.
* `DerivesSource`: the tokens of a whole text, the end of input with them.

No rule looks at what follows a phrase. That a name before a parenthesis is always called, and
that a path is as long as it can be, is a consequence.
-/

namespace FunctionManual.Syntax

/-! ## Literals and paths -/

/-- The value of a literal. -/
inductive Literal : Token → Scalar → Prop
  | string {t : Token} (h : t.kind = .string ∨ t.kind = .rawString) : Literal t (.string t.text)
  | regex {t : Token} {r : Regex} (h : t.kind = .regex) (hr : Regex.compile t.text = .ok r) :
      Literal t (.regex r)
  | integer {t : Token} {i : Int} (h : t.kind = .integer)
      (hi : Integer.readPlain t.text.toList = .ok i) : Literal t (.integer i)
  | float {t : Token} {x : Binary64} (h : t.kind = .float) (hx : Binary64.read t.text = some x) :
      Literal t (.float x)
  | keyword {t : Token} {v : Scalar} (h : t.kind = .identifier) (hv : keyword? t.text = some v) :
      Literal t v

/-- An identifier that is no keyword. -/
def IsName (t : Token) : Prop := t.kind = .identifier ∧ keyword? t.text = none

/-- The names of a path behind the first. -/
inductive DerivesNames : List Token → List String → Prop
  | nil : DerivesNames [] []
  | cons {dot name : Token} {ts : List Token} {names : List String} (hd : dot.isMark ".")
      (hn : name.kind = .identifier) (h : DerivesNames ts names) :
      DerivesNames (dot :: name :: ts) (name.text :: names)

/-- A path. -/
inductive DerivesPath : List Token → List String → Prop
  | event {dot : Token} (hd : dot.isMark ".") : DerivesPath [dot] []
  | names {dot name : Token} {ts : List Token} {names : List String} (hd : dot.isMark ".")
      (hn : name.kind = .identifier) (touches : name.span.start = dot.span.stop)
      (h : DerivesNames ts names) : DerivesPath (dot :: name :: ts) (name.text :: names)

/-! ## Expressions -/

/-- The trees that phrases of expressions have. -/
inductive Phrase
  | expr (tree : Expr)
  | items (trees : List Expr)
  | entry (tree : String × Expr)
  | entries (trees : List (String × Expr))
  | argument (tree : Option String × Expr)
  | arguments (trees : List (Option String × Expr))

/-- The tokens of an expression, or of a part of one, and their tree. -/
inductive Derives : List Token → Phrase → Prop
  | literal {t : Token} {v : Scalar} (h : Literal t v) : Derives [t] (.expr (.literal v))
  | name {t : Token} (h : IsName t) : Derives [t] (.expr (.variable t.text t.span))
  | path {ts : List Token} {names : List String} (h : DerivesPath ts names) :
      Derives ts (.expr (.path names))
  | group {o c : Token} {ts : List Token} {e : Expr} (ho : o.isMark "(")
      (h : Derives ts (.expr e)) (hc : c.isMark ")") : Derives (o :: ts ++ [c]) (.expr e)
  | array {o c : Token} {ts : List Token} {es : List Expr} (ho : o.isMark "[")
      (h : Derives ts (.items es)) (hc : c.isMark "]") :
      Derives (o :: ts ++ [c]) (.expr (.array es))
  | object {o c : Token} {ts : List Token} {es : List (String × Expr)} (ho : o.isMark "\x7b")
      (h : Derives ts (.entries es)) (hc : c.isMark "\x7d") :
      Derives (o :: ts ++ [c]) (.expr (.object es))
  | call {n o c : Token} {bang : Option Token} {ts : List Token}
      {as : List (Option String × Expr)} (hn : IsName n) (hb : ∀ b ∈ bang, b.isMark "!")
      (ho : o.isMark "(") (h : Derives ts (.arguments as)) (hc : c.isMark ")") :
      Derives (n :: (bang.toList ++ (o :: ts ++ [c])))
        (.expr (.call n.text as bang.isSome ⟨n.span.start, c.span.stop⟩))
  | noItems : Derives [] (.items [])
  | lastItem {ts : List Token} {e : Expr} (h : Derives ts (.expr e)) : Derives ts (.items [e])
  | moreItems {c : Token} {ts us : List Token} {e : Expr} {es : List Expr}
      (h : Derives ts (.expr e)) (hc : c.isMark ",") (hs : Derives us (.items es)) :
      Derives (ts ++ c :: us) (.items (e :: es))
  | entry {key colon : Token} {ts : List Token} {e : Expr}
      (hk : key.kind = .string ∨ key.kind = .rawString) (hc : colon.isMark ":")
      (h : Derives ts (.expr e)) : Derives (key :: colon :: ts) (.entry (key.text, e))
  | noEntries : Derives [] (.entries [])
  | lastEntry {ts : List Token} {e : String × Expr} (h : Derives ts (.entry e)) :
      Derives ts (.entries [e])
  | moreEntries {c : Token} {ts us : List Token} {e : String × Expr} {es : List (String × Expr)}
      (h : Derives ts (.entry e)) (hc : c.isMark ",") (hs : Derives us (.entries es)) :
      Derives (ts ++ c :: us) (.entries (e :: es))
  | positional {ts : List Token} {e : Expr} (h : Derives ts (.expr e)) :
      Derives ts (.argument (none, e))
  | named {n colon : Token} {ts : List Token} {e : Expr} (hn : n.kind = .identifier)
      (hc : colon.isMark ":") (h : Derives ts (.expr e)) :
      Derives (n :: colon :: ts) (.argument (some n.text, e))
  | noArguments : Derives [] (.arguments [])
  | lastArgument {ts : List Token} {a : Option String × Expr} (h : Derives ts (.argument a)) :
      Derives ts (.arguments [a])
  | moreArguments {c : Token} {ts us : List Token} {a : Option String × Expr}
      {as : List (Option String × Expr)} (h : Derives ts (.argument a)) (hc : c.isMark ",")
      (hs : Derives us (.arguments as)) : Derives (ts ++ c :: us) (.arguments (a :: as))

/-! ## Statements -/

/-- The tokens of a statement and its tree. -/
inductive DerivesStatement : List Token → Statement → Prop
  | expr {ts : List Token} {e : Expr} (h : Derives ts (.expr e)) : DerivesStatement ts (.expr e)
  | assignVariable {t eq : Token} {ts : List Token} {e : Expr} (ht : IsName t)
      (heq : eq.isMark "=") (h : Derives ts (.expr e)) :
      DerivesStatement (t :: eq :: ts) (.assign (.variable t.text t.span) e)
  | assignPath {eq : Token} {ps ts : List Token} {names : List String} {e : Expr}
      (hp : DerivesPath ps names) (heq : eq.isMark "=") (h : Derives ts (.expr e)) :
      DerivesStatement (ps ++ eq :: ts) (.assign (.path names) e)

/-- Nothing but separators. -/
def AreSeparators (ts : List Token) : Prop := ∀ t ∈ ts, t.isSeparator

/-- The tokens of a program and its statements. -/
inductive DerivesProgram : List Token → Program → Prop
  | nil {seps : List Token} (hs : AreSeparators seps) : DerivesProgram seps []
  | last {seps ts : List Token} {s : Statement} (hs : AreSeparators seps)
      (h : DerivesStatement ts s) : DerivesProgram (seps ++ ts) [s]
  | more {seps ts us : List Token} {t : Token} {s : Statement} {p : Program}
      (hs : AreSeparators seps) (h : DerivesStatement ts s) (ht : t.isSeparator)
      (hp : DerivesProgram (t :: us) p) : DerivesProgram (seps ++ (ts ++ t :: us)) (s :: p)

/-- The tokens of a whole text and the program that it spells. -/
inductive DerivesSource : List Token → Program → Prop
  | mk {ts : List Token} {eof : Token} {p : Program} (he : eof.kind = .endOfInput)
      (h : DerivesProgram ts p) : DerivesSource (ts ++ [eof]) p

end FunctionManual.Syntax
