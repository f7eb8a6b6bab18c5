import PreparedSql.Dialect.Standard
import PreparedSql.Json.Reader
import PreparedSql.Json.Record
import PreparedSql.Number.Decimal

/-! Settings of a database connection, read from a JSON document in which every field may be
left out. -/

namespace PreparedSql

structure ConnectionSettings where
  url : String := "sqlite::memory:"
  maxConnections : UInt32 := 1
  /-- The name of a dialect. -/
  dialect : String := "sqlite"
  deriving DecidableEq, Repr

inductive ConnectError where
  | unknownDialect (name : String)
  deriving DecidableEq, Repr

def ConnectError.message : ConnectError → String
  | .unknownDialect name => "Unknown dialect '" ++ name ++ "'"

/-- A number of 32 bits, written with digits alone. -/
def Json.uint32? : Json → Option UInt32
  | .number written => do
      let number ← Number.ofDigits? written.toList
      if number < UInt32.size then some (UInt32.ofNat number) else none
  | _ => none

namespace ConnectionSettings

def keys : List String := ["database_url", "max_connections", "dialect"]

def ofJson? (json : Json) : Option ConnectionSettings :=
  let defaults : ConnectionSettings := {}
  match json.fields? keys with
  | some [url, maxConnections, dialect] => do
      return {
        url := ← Json.orDefault defaults.url Json.text? url
        maxConnections := ← Json.orDefault defaults.maxConnections Json.uint32? maxConnections
        dialect := ← Json.orDefault defaults.dialect Json.text? dialect }
  | _ => none

def read? (text : String) : Option ConnectionSettings :=
  (Json.parse? text).bind ofJson?

/-- The dialect that a connection has to be opened with. -/
def findDialect (settings : ConnectionSettings) : Except ConnectError Dialect :=
  match Dialect.byName? settings.dialect with
  | some dialect => .ok dialect
  | none => .error (.unknownDialect settings.dialect)

end ConnectionSettings

end PreparedSql
