/-!
Options and positional arguments of a command line.

An option is given by its long name after two dashes or by its letter after one; letters without a
value may stand together. A value stands in the next argument, or is attached to the option with or
without an equals sign. What begins with a dash is an option, unless it is a single dash or stands
after an argument of two dashes.
-/

set_option autoImplicit false

namespace RequestFilter.Arguments

structure Opt where
  long : String
  short : Option Char
  takesValue : Bool
  deriving DecidableEq

/-- What an argument, or an argument with the next, amounts to. A positional argument may be
`trailing`, that is, stand after an argument of two dashes. -/
inductive Item
  | given (opt : Opt) (value : String)
  | positional (value : String) (trailing : Bool)

def isOptionLike (arg : List Char) : Bool := arg.head? = some '-' && 1 < arg.length

def byLong? (opts : List Opt) (name : List Char) : Option Opt :=
  opts.find? fun o => o.long.toList == name

def byShort? (opts : List Opt) (letter : Char) : Option Opt :=
  opts.find? fun o => o.short == some letter

def splitLong (body : List Char) : List Char × Option (List Char) :=
  match body.span (· ≠ '=') with
  | (name, _ :: value) => (name, some value)
  | (name, []) => (name, none)

/-- What an option still wants: nothing, or the next argument for its value. -/
inductive Pending
  | nothing
  | value (opt : Opt)

def readLetters? (opts : List Opt) : List Char → Option (List Item × Pending)
  | [] => some ([], .nothing)
  | c :: cs => do
    let opt ← byShort? opts c
    if opt.takesValue then
      match cs with
      | [] => some ([], .value opt)
      | '=' :: value => some ([.given opt (.ofList value)], .nothing)
      | value => some ([.given opt (.ofList value)], .nothing)
    else
      let (items, pending) ← readLetters? opts cs
      some (.given opt "" :: items, pending)

def readOption? (opts : List Opt) : List Char → Option (List Item × Pending)
  | '-' :: '-' :: body => do
    let (name, value) := splitLong body
    let opt ← byLong? opts name
    match opt.takesValue, value with
    | true, some value => some ([.given opt (.ofList value)], .nothing)
    | true, none => some ([], .value opt)
    | false, none => some ([.given opt ""], .nothing)
    | false, some _ => none
  | '-' :: letters => readLetters? opts letters
  | _ => none

/-- The items of a command line. With `single` reading stops at the first positional argument, and
the arguments after it are left. -/
def read? (opts : List Opt) (single : Bool) :
    Pending → List String → Option (List Item × List String)
  | .nothing, [] => some ([], [])
  | .value _, [] => none
  | .value opt, arg :: args =>
    if isOptionLike arg.toList then none
    else (read? opts single .nothing args).map fun (items, left) => (.given opt arg :: items, left)
  | .nothing, arg :: args =>
    if arg = "--" then some (args.map fun a => .positional a true, [])
    else if isOptionLike arg.toList then do
      let (items, pending) ← readOption? opts arg.toList
      let (more, left) ← read? opts single pending args
      some (items ++ more, left)
    else if single then some ([.positional arg false], args)
    else
      (read? opts single .nothing args).map fun (items, left) => (.positional arg false :: items, left)

def positionals (items : List Item) : List String :=
  items.filterMap fun
    | .positional value _ => some value
    | .given _ _ => none

def valuesOf (long : String) (items : List Item) : List String :=
  items.filterMap fun
    | .given opt value => if opt.long = long then some value else none
    | .positional _ _ => none

def noneRepeated (opts : List Opt) (items : List Item) : Bool :=
  opts.all fun o => (valuesOf o.long items).length ≤ 1

end RequestFilter.Arguments
