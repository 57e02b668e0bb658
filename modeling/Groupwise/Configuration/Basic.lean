import Groupwise.Json.Decode

/-!
# Configuration

A configuration says how queries are compiled, where the catalog comes from, and how the program
serves and logs. Everything has a default.
-/
namespace Groupwise

/-- How queries are compiled. -/
structure Settings where
  /-- How many hours the clock of the queries is ahead of universal time. -/
  timezoneHours : Int := -6
  /-- The limit of queries that set none. -/
  rowLimit : Option Nat := none
  /-- Whether results go into the old cache. -/
  isLegacy : Bool := false
  /-- The denominator of samples that give none. -/
  sampleDenominator : Nat := 100
  /-- How many groups one grouping may make. -/
  groupLimit : Nat := 1000000
  resultFormat : String := "tsv"
  deriving Repr, DecidableEq, Inhabited

namespace Settings

def toJson (s : Settings) : Json :=
  .object [("timezone_offset_hours", .int s.timezoneHours), ("row_limit", .option .nat s.rowLimit),
    ("legacy_mode", .bool s.isLegacy), ("default_sample_denominator", .nat s.sampleDenominator),
    ("group_limit", .nat s.groupLimit), ("result_format", .string s.resultFormat)]

def decoder : Json.Decoder Settings :=
  .record {} [
    .optional "timezone_offset_hours" (.intWithin Int32.minValue.toInt Int32.maxValue.toInt)
      fun timezoneHours s => { s with timezoneHours },
    .optional "row_limit" (.optional (.natBelow UInt64.size)) fun rowLimit s => { s with rowLimit },
    .optional "legacy_mode" .bool fun isLegacy s => { s with isLegacy },
    .optional "default_sample_denominator" (.natBelow UInt64.size)
      fun sampleDenominator s => { s with sampleDenominator },
    .optional "group_limit" (.natBelow UInt64.size) fun groupLimit s => { s with groupLimit },
    .optional "result_format" .string fun resultFormat s => { s with resultFormat }]

def ofJson? (j : Json) : Option Settings := decoder.ofJson? j

end Settings

/-- Where the catalog comes from. -/
structure CatalogLocation where
  path : Option String := none
  url : Option String := none
  deriving Repr, DecidableEq, Inhabited

namespace CatalogLocation

def toJson (c : CatalogLocation) : Json :=
  .object [("path", .option .string c.path), ("url", .option .string c.url)]

def decoder : Json.Decoder CatalogLocation :=
  .record {} [
    .optional "path" (.optional .string) fun path c => { c with path },
    .optional "url" (.optional .string) fun url c => { c with url }]

/-- The kind of the catalog's source. An address wins over a file, and with neither the catalog is
fixed and empty. -/
def sourceName (c : CatalogLocation) : String :=
  match c.url, c.path with
  | some _, _ => "http"
  | none, some _ => "file"
  | none, none => "static"

end CatalogLocation

/-- How requests are served. -/
structure ServerSettings where
  host : String := "127.0.0.1"
  portNumber : Nat := 8040
  /-- Whether pages from elsewhere may send requests. -/
  allowsForeignPages : Bool := true
  deriving Repr, DecidableEq, Inhabited

namespace ServerSettings

def address (s : ServerSettings) : String := s.host ++ ":" ++ toString s.portNumber

def toJson (s : ServerSettings) : Json :=
  .object [("host", .string s.host), ("port", .nat s.portNumber),
    ("cors_enabled", .bool s.allowsForeignPages)]

def decoder : Json.Decoder ServerSettings :=
  .record {} [
    .optional "host" .string fun host s => { s with host },
    .optional "port" (.natBelow UInt16.size) fun portNumber s => { s with portNumber },
    .optional "cors_enabled" .bool fun allowsForeignPages s => { s with allowsForeignPages }]

end ServerSettings

structure LogSettings where
  level : String := "info"
  format : String := "pretty"
  deriving Repr, DecidableEq, Inhabited

namespace LogSettings

def toJson (s : LogSettings) : Json :=
  .object [("level", .string s.level), ("format", .string s.format)]

def decoder : Json.Decoder LogSettings :=
  .record {} [
    .optional "level" .string fun level s => { s with level },
    .optional "format" .string fun format s => { s with format }]

end LogSettings

structure Configuration where
  compile : Settings := {}
  catalog : CatalogLocation := {}
  server : ServerSettings := {}
  log : LogSettings := {}
  deriving Repr, DecidableEq, Inhabited

namespace Configuration

def toJson (c : Configuration) : Json :=
  .object [("compile", c.compile.toJson), ("catalog", c.catalog.toJson), ("api", c.server.toJson),
    ("logging", c.log.toJson)]

def decoder : Json.Decoder Configuration :=
  .record {} [
    .optional "compile" Settings.decoder fun compile c => { c with compile },
    .optional "catalog" CatalogLocation.decoder fun catalog c => { c with catalog },
    .optional "api" ServerSettings.decoder fun server c => { c with server },
    .optional "logging" LogSettings.decoder fun log c => { c with log }]

end Configuration

end Groupwise
