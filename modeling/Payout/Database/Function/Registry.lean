import Payout.Database.Token

/-!
# The functions a statement may call

Each built-in function has a name, the numbers of arguments it takes, and what kind of
function it is: a scalar function computes a value from its arguments; an aggregate function
folds the rows of a group; a window function ranks rows of a window. A name may be both: with
one argument `min` and `max` are aggregates, with more they are scalar.

Some scalar functions depend on more than their arguments (the clock, a random source, the
connection): such functions may not appear in a `CHECK` constraint, an index or a generated
column.
-/

namespace Payout.Database

/-- The kinds of function. -/
inductive FunctionKind where
  | scalar
  | aggregate
  | window
deriving DecidableEq, Inhabited

/-- How many arguments a function takes. -/
inductive Arity where
  /-- Exactly one of these counts. -/
  | oneOf (counts : List Nat)
  /-- At least this many. -/
  | atLeast (n : Nat)
deriving Inhabited

/-- Whether an arity admits a count. -/
def Arity.admits : Arity → Nat → Bool
  | .oneOf cs, n => cs.contains n
  | .atLeast k, n => n ≥ k

/-- A built-in function: its name, its arities by kind, and whether it depends only on its
arguments. -/
structure FunctionSpec where
  name : String
  kind : FunctionKind
  arity : Arity
  deterministic : Bool
deriving Inhabited

/-- A scalar function that depends only on its arguments. -/
def scalarFn (name : String) (arity : Arity) : FunctionSpec := ⟨name, .scalar, arity, true⟩

/-- A scalar function that depends on more than its arguments. -/
def volatileFn (name : String) (arity : Arity) : FunctionSpec := ⟨name, .scalar, arity, false⟩

/-- An aggregate function. -/
def aggregateFn (name : String) (arity : Arity) : FunctionSpec := ⟨name, .aggregate, arity, true⟩

/-- A window function. -/
def windowFn (name : String) (arity : Arity) : FunctionSpec := ⟨name, .window, arity, true⟩

/-- The built-in functions. -/
def builtinFunctions : List FunctionSpec :=
  [ scalarFn "abs" (.oneOf [1]), volatileFn "changes" (.oneOf [0]), scalarFn "char" (.atLeast 0),
    scalarFn "coalesce" (.atLeast 2), scalarFn "concat" (.atLeast 1),
    scalarFn "concat_ws" (.atLeast 2), scalarFn "format" (.atLeast 1),
    scalarFn "glob" (.oneOf [2]), scalarFn "hex" (.oneOf [1]), scalarFn "ifnull" (.oneOf [2]),
    scalarFn "iif" (.atLeast 2), scalarFn "if" (.atLeast 2), scalarFn "instr" (.oneOf [2]),
    volatileFn "last_insert_rowid" (.oneOf [0]), scalarFn "length" (.oneOf [1]),
    scalarFn "like" (.oneOf [2, 3]), scalarFn "likelihood" (.oneOf [2]),
    scalarFn "likely" (.oneOf [1]), scalarFn "lower" (.oneOf [1]),
    scalarFn "ltrim" (.oneOf [1, 2]), scalarFn "max" (.atLeast 2), scalarFn "min" (.atLeast 2),
    scalarFn "nullif" (.oneOf [2]), scalarFn "octet_length" (.oneOf [1]),
    scalarFn "printf" (.atLeast 0), scalarFn "quote" (.oneOf [1]),
    volatileFn "random" (.oneOf [0]), volatileFn "randomblob" (.oneOf [1]),
    scalarFn "replace" (.oneOf [3]), scalarFn "round" (.oneOf [1, 2]),
    scalarFn "rtrim" (.oneOf [1, 2]), scalarFn "sign" (.oneOf [1]),
    scalarFn "soundex" (.oneOf [1]), scalarFn "sqlite_compileoption_get" (.oneOf [1]),
    scalarFn "sqlite_compileoption_used" (.oneOf [1]), scalarFn "sqlite_source_id" (.oneOf [0]),
    scalarFn "sqlite_version" (.oneOf [0]), scalarFn "substr" (.oneOf [2, 3]),
    scalarFn "substring" (.oneOf [2, 3]), volatileFn "total_changes" (.oneOf [0]),
    scalarFn "trim" (.oneOf [1, 2]), scalarFn "typeof" (.oneOf [1]),
    scalarFn "unhex" (.oneOf [1, 2]), scalarFn "unicode" (.oneOf [1]),
    scalarFn "unistr" (.oneOf [1]), scalarFn "unistr_quote" (.oneOf [1]),
    scalarFn "unlikely" (.oneOf [1]), scalarFn "upper" (.oneOf [1]),
    scalarFn "zeroblob" (.oneOf [1]), scalarFn "subtype" (.oneOf [1]),
    -- dates and times
    scalarFn "date" (.atLeast 0), scalarFn "time" (.atLeast 0), scalarFn "datetime" (.atLeast 0),
    scalarFn "julianday" (.atLeast 0), scalarFn "unixepoch" (.atLeast 0),
    scalarFn "strftime" (.atLeast 0), scalarFn "timediff" (.oneOf [2]),
    volatileFn "current_date" (.oneOf [0]), volatileFn "current_time" (.oneOf [0]),
    volatileFn "current_timestamp" (.oneOf [0]),
    -- JSON
    scalarFn "json" (.oneOf [1]), scalarFn "jsonb" (.oneOf [1]),
    scalarFn "json_array" (.atLeast 0), scalarFn "jsonb_array" (.atLeast 0),
    scalarFn "json_array_length" (.oneOf [1, 2]), scalarFn "json_error_position" (.oneOf [1]),
    scalarFn "json_extract" (.atLeast 1), scalarFn "jsonb_extract" (.atLeast 1),
    scalarFn "json_insert" (.atLeast 1), scalarFn "jsonb_insert" (.atLeast 1),
    scalarFn "json_object" (.atLeast 0), scalarFn "jsonb_object" (.atLeast 0),
    scalarFn "json_patch" (.oneOf [2]), scalarFn "jsonb_patch" (.oneOf [2]),
    scalarFn "json_pretty" (.oneOf [1, 2]), scalarFn "json_quote" (.oneOf [1]),
    scalarFn "json_remove" (.atLeast 1), scalarFn "jsonb_remove" (.atLeast 1),
    scalarFn "json_replace" (.atLeast 1), scalarFn "jsonb_replace" (.atLeast 1),
    scalarFn "json_set" (.atLeast 1), scalarFn "jsonb_set" (.atLeast 1),
    scalarFn "json_type" (.oneOf [1, 2]), scalarFn "json_valid" (.oneOf [1, 2]),
    -- aggregates
    aggregateFn "avg" (.oneOf [1]), aggregateFn "count" (.oneOf [0, 1]),
    aggregateFn "group_concat" (.oneOf [1, 2]), aggregateFn "string_agg" (.oneOf [2]),
    aggregateFn "max" (.oneOf [1]), aggregateFn "min" (.oneOf [1]),
    aggregateFn "sum" (.oneOf [1]), aggregateFn "total" (.oneOf [1]),
    aggregateFn "json_group_array" (.oneOf [1]), aggregateFn "jsonb_group_array" (.oneOf [1]),
    aggregateFn "json_group_object" (.oneOf [2]), aggregateFn "jsonb_group_object" (.oneOf [2]),
    -- window functions
    windowFn "row_number" (.oneOf [0]), windowFn "rank" (.oneOf [0]),
    windowFn "dense_rank" (.oneOf [0]), windowFn "percent_rank" (.oneOf [0]),
    windowFn "cume_dist" (.oneOf [0]), windowFn "ntile" (.oneOf [1]),
    windowFn "lag" (.oneOf [1, 2, 3]), windowFn "lead" (.oneOf [1, 2, 3]),
    windowFn "first_value" (.oneOf [1]), windowFn "last_value" (.oneOf [1]),
    windowFn "nth_value" (.oneOf [2]) ]

/-- The result of looking a call up: the function it calls, or that the name is known with
other argument counts, or that the name is unknown. -/
inductive Lookup where
  | found (spec : FunctionSpec)
  | wrongCount
  | unknown
deriving Inhabited

/-- Looks a function up by name (ignoring ASCII case) and argument count. -/
def lookupFunction (name : String) (count : Nat) : Lookup :=
  let n := lowerAscii name
  let named := builtinFunctions.filter (·.name == n)
  match named.find? (·.arity.admits count) with
  | some s => .found s
  | none => if named.isEmpty then .unknown else .wrongCount

end Payout.Database
