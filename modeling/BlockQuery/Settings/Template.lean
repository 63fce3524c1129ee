import BlockQuery.Text.Find
import BlockQuery.Toml.Writer

/-!
# The example settings file

A new settings file is the example below, in which the lines of the graph and of
the token are filled in when they are given.
-/

namespace BlockQuery.Settings.Template

/-- The line that stands for the name of the graph. -/
def nameLine : String := "# name = \"my-graph\""

/-- The line that stands for the token. -/
def tokenLine : String := "# token = \"roam-graph-token-...\""

/-- The lines of the example. -/
def exampleLines : List String :=
  ["# roam-query configuration",
   "#",
   "# Default location: ~/.config/roam-query/config.toml",
   "# The environment variables ROAM_GRAPH_NAME and ROAM_API_TOKEN override",
   "# the values in [graph].",
   "",
   "[graph]",
   "# Name of the Roam graph to query",
   nameLine,
   "",
   "# Backend API token (Settings > Graph > API tokens in Roam)",
   tokenLine,
   "",
   "# Backend API host. Requests may be redirected to a graph peer.",
   "base_url = \"https://api.roamresearch.com\"",
   "",
   "[query]",
   "# Rows returned when --limit is not given. -1 returns every match.",
   "default_limit = 50",
   "",
   "# How deep ((uid)) block references in results are expanded. 0 disables it.",
   "refs_depth = 4",
   "",
   "# Datalog :order for results",
   "order_by = \"?block-uid asc\"",
   "",
   "[display]",
   "# Use colors in terminal output. NO_COLOR and --no-color take precedence.",
   "colored_output = true"]

/-- The text of the example. -/
def exampleText : String :=
  String.join (exampleLines.map (· ++ "\n"))

/-- The text with the first occurrence of a line replaced by an entry, if a value is given. -/
def fillLine (line key : String) (value : Option String) (text : String) : String :=
  match value.filter (· != "") with
  | some value =>
    String.ofList (Text.replaceFirst line.toList
      (Toml.entryLine key (.string value)).toList text.toList)
  | none => text

/-- A text with the graph and the token filled in. -/
def fill (text : String) (graph token : Option String) : String :=
  fillLine tokenLine "token" token (fillLine nameLine "name" graph text)

end BlockQuery.Settings.Template
