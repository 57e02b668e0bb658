import Groupwise.Catalog
import Groupwise.Configuration.Basic
import Groupwise.Toml.Document

/-!
# Loading configurations and catalogs

A configuration comes from a settings file or from the defaults, and variables of the environment
override it. A catalog comes from a document or a settings file, as the name of the file tells.
-/
namespace Groupwise

namespace Configuration

def ofToml? (text : String) : Option Configuration := (Toml.read? text).bind decoder.ofJson?

/-- A natural number below a bound, perhaps behind a plus sign. -/
def natBelow? (bound : Nat) (text : String) : Option Nat := do
  let n ← Decimal.readInt? text.toList
  if 0 ≤ n && n < bound && !text.startsWith "-" then some n.toNat else none

def int32? (text : String) : Option Int := do
  let n ← Decimal.readInt? text.toList
  if Int32.minValue.toInt ≤ n && n ≤ Int32.maxValue.toInt then some n else none

/-- The variables of the environment that matter. -/
def variableNames : List String :=
  ["JQL_TIMEZONE_OFFSET_HOURS", "JQL_ROW_LIMIT", "JQL_LEGACY_MODE", "JQL_RESULT_FORMAT",
    "JQL_CATALOG_PATH", "JQL_CATALOG_URL", "JQL_API_HOST", "JQL_API_PORT", "JQL_LOG_LEVEL",
    "JQL_LOG_FORMAT"]

def override (environment : String → Option String) (c : Configuration) : Configuration where
  compile := { c.compile with
    timezoneHours := ((environment "JQL_TIMEZONE_OFFSET_HOURS").bind int32?).getD
      c.compile.timezoneHours
    rowLimit := ((environment "JQL_ROW_LIMIT").bind (natBelow? UInt64.size)).orElse fun _ =>
      c.compile.rowLimit
    isLegacy := ((environment "JQL_LEGACY_MODE").map
      fun text => ["1", "true", "yes"].contains text).getD c.compile.isLegacy
    resultFormat := (environment "JQL_RESULT_FORMAT").getD c.compile.resultFormat }
  catalog := {
    path := (environment "JQL_CATALOG_PATH").orElse fun _ => c.catalog.path
    url := (environment "JQL_CATALOG_URL").orElse fun _ => c.catalog.url }
  server := { c.server with
    host := (environment "JQL_API_HOST").getD c.server.host
    portNumber := ((environment "JQL_API_PORT").bind (natBelow? UInt16.size)).getD
      c.server.portNumber }
  log := {
    level := (environment "JQL_LOG_LEVEL").getD c.log.level
    format := (environment "JQL_LOG_FORMAT").getD c.log.format }

def template : String := "# JQL Configuration
#
# Environment variables override these settings:
# - JQL_TIMEZONE_OFFSET_HOURS
# - JQL_ROW_LIMIT
# - JQL_LEGACY_MODE
# - JQL_RESULT_FORMAT
# - JQL_CATALOG_PATH
# - JQL_CATALOG_URL
# - JQL_API_HOST
# - JQL_API_PORT
# - JQL_LOG_LEVEL
# - JQL_LOG_FORMAT

[compile]
# Offset from UTC for dates written without a zone
timezone_offset_hours = -6

# Row limit for queries without LIMIT
# row_limit = 10000

# Compile for the legacy result cache
legacy_mode = false

# Denominator used by sample(field, n)
default_sample_denominator = 100

# Largest number of groups one grouping stage may create
group_limit = 1000000

# Result format: tsv or json
result_format = \"tsv\"

[catalog]
# Dataset metadata file (.toml or .json)
# path = \"/etc/jql/datasets.toml\"

# Metadata service URL
# url = \"http://localhost:8041/datasets\"

[api]
# API server host
host = \"127.0.0.1\"

# API server port
port = 8040

# Allow cross-origin requests
cors_enabled = true

[logging]
# Log level: trace, debug, info, warn, error
level = \"info\"

# Log format: pretty (for development) or json (for production)
format = \"pretty\"
"

end Configuration

namespace Catalog

def ofJsonText? (text : String) : Option Catalog := decoder.ofText? text

def ofToml? (text : String) : Option Catalog := (Toml.read? text).bind ofJson?

def fileName (path : String) : List Char :=
  ((path.toList.reverse.dropWhile (· = '/')).takeWhile (· ≠ '/')).reverse

/-- Whether a file holds a document rather than settings: what follows the last point of its name
says so, unless the name starts there. -/
def isDocumentPath (path : String) : Bool :=
  let name := (fileName path).reverse
  name.takeWhile (· ≠ '.') == "nosj".toList && (name.dropWhile (· ≠ '.')).length > 1

/-- The catalog in a file of the given path. -/
def ofFile? (path text : String) : Option Catalog :=
  if isDocumentPath path then ofJsonText? text else ofToml? text

end Catalog

end Groupwise
