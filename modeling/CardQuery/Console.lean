import CardQuery.Console.Draft
import CardQuery.Editor.Build
import CardQuery.Editor.View
import CardQuery.Filter.Parser
import CardQuery.Filter.Spelling
import CardQuery.Registry.Builtin
import CardQuery.Registry.File
import CardQuery.Sql.Compile

/-!
The dialogue at the console. Each line is a command or a filter; a filter is answered with what the
editor makes of it, its variables, its tree and its query, as far as it goes without an error.
-/

set_option autoImplicit false
set_option relaxedAutoImplicit false

namespace CardQuery.Console

open Text Editor

/-- The file that is looked for when no other is named. -/
def usualPath : String := "filters.json"

def greeting : List String :=
  ["--- Card Filter: 文本 → box model → SQL ---",
    "输入Filter文本，:filters 列出可用Filter，:type card|set 切换对象类型"]

/-- The registry to work with, and the line that tells where it comes from. -/
def openRegistry (path : String) (contents : Registry.FileContents) : Registry × String :=
  match Registry.load path contents with
  | .ok registry =>
    (registry, "✅ 成功从 " ++ path ++ " 加载了 " ++ toString registry.keywords.length ++ " 个Filter")
  | .error error =>
    (.builtin, "⚠️ 无法加载JSON配置文件 (配置错误: " ++ error.message ++ "), 使用默认配置")

/-- The text without the blanks at its ends. -/
def trim (text : String) : String :=
  String.ofList ((text.toList.dropWhile isBlank).reverse.dropWhile isBlank).reverse

/-- The text with spaces after it, up to a number of characters. -/
def pad (width : Nat) (text : String) : String :=
  text ++ String.ofList (List.replicate (width - text.length) ' ')

def keywordLine (keyword : Keyword) : String :=
  "  " ++ pad 14 keyword.name ++ " " ++ pad 16 keyword.description ++ " " ++ keyword.help

def failure (message : String) : String := "✗ " ++ message

def syntaxLine (error : SyntaxError) : String :=
  failure ("解析失败: " ++ error.fault.message ++
    match error.span with
    | some span => " (位置 " ++ span.text ++ ")"
    | none => "")

def bindingLine (entry : String × Option Selection) : String :=
  match entry.2 with
  | some selection => "  " ++ entry.1 ++ " = " ++ selection.text
  | none => "  " ++ entry.1 ++ " (未设置)"

def bindingLines (bindings : Bindings) : List String :=
  if bindings.entries = [] then [] else "[变量]:" :: bindings.entries.map bindingLine

/-- The tree of a filter with its values, and the query for it. -/
def queryLines (registry : Registry) (subject : Subject) : Option Filter → List String
  | none => ["Filter 为空"]
  | some filter =>
    ["[AST]: " ++ filter.describe,
      match Sql.compile registry subject filter with
      | .ok query => "[SQL]: " ++ query
      | .error error => failure error.message]

def filterLines (registry : Registry) (subject : Subject) (line : String) : List String :=
  match Filter.ofText registry subject line with
  | .error error => [syntaxLine error]
  | .ok filter =>
    match (Element.ofFilterAlone subject (some filter) ⟨0⟩ 0).1 with
    | .error error => [failure ("无法为该Filter打开结构化编辑器: " ++ error.message)]
    | .ok element =>
      ("[Box model 文本]: " ++ element.text) :: bindingLines element.bindings ++
        queryLines registry subject element.boundFilter?

/-- The answer to a line, and the subject of the lines after it. Blanks at the ends of a line say
nothing. -/
def respond (registry : Registry) (subject : Subject) (line : String) : List String × Subject :=
  let line := trim line
  if line = "" then ([], subject)
  else if line = ":filters" then ((registry.keywordsFor subject).map keywordLine, subject)
  else if line = ":type card" then ([], .card)
  else if line = ":type set" then ([], .cardSet)
  else (filterLines registry subject line, subject)

/-- The answers to lines as they are typed, and whether the last of them was reached. The dialogue
breaks off at a line that comes to nothing. -/
def answers (registry : Registry) : Subject → List String → List String × Bool
  | _, [] => ([], true)
  | subject, typed :: rest =>
    match Draft.finish typed with
    | none => ([], false)
    | some line =>
      let (answer, next) := respond registry subject line
      let (others, reached) := answers registry next rest
      (answer ++ others, reached)

/-- All lines of output, for a file of keywords and the whole input, and whether the end of the
input was reached. -/
def dialogue (path : String) (contents : Registry.FileContents) (input : String) :
    List String × Bool :=
  let (registry, notice) := openRegistry path contents
  let (lines, reached) :=
    answers registry .card ((input.toList.splitOn '\n').map String.ofList)
  (greeting ++ notice :: lines, reached)

end CardQuery.Console
