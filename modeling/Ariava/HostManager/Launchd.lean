import Ariava.HostManager.NodePath
import Ariava.Lib.Scan
import Ariava.Protocol.CodeUnits

/-!
# `Ariava.HostManager.Launchd`: the definition of the launchd service

`launchd.ts`, as far as it makes a definition, renders it as a property list and reads the program
arguments back from the file. The file is written and read in UTF-8, so a lone surrogate comes back
as U+FFFD (`toWellFormed`).

The two regular expressions of `parseProgramArgumentsFromPlist` are matchers of a scan. In
`<string>(.*?)</string>` the dot stands for every character but a line terminator, and those of the
language are four.

`serviceDefaults` has the paths that depend on the home directory.
-/

set_option autoImplicit false

namespace Ariava.HostManager

open Ariava.Lib.Scan
open Ariava.Protocol

/-! ### The definition -/

/-- An `AriavaCliError`: its code, message and data. -/
structure AriavaCliError where
  code : String
  message : String
  data : List (String × String)
deriving DecidableEq

/-- `LaunchdServiceDefinition`. -/
structure LaunchdServiceDefinition where
  label : JsString
  nodePath : JsString
  ariavaBinPath : JsString
  configPath : JsString
  plistPath : JsString
  stdoutPath : JsString
  stderrPath : JsString
  programArguments : List JsString
  enabled : Bool
deriving DecidableEq

/-- The overrides of a definition. -/
structure LaunchdOverrides where
  serviceId : Option JsString
  definitionPath : Option JsString
  stdoutLogPath : Option JsString
  stderrLogPath : Option JsString
  enabled : Option Bool

/-- The third argument of `buildLaunchdServiceDefinition`. -/
inductive ConfigPathOrOverrides
  | configPath (path : JsString)
  | overrides (overrides : LaunchdOverrides)

/-- `ARIAVA_LAUNCHD_LABEL` and the default paths. -/
structure LaunchdDefaults where
  label : JsString := jsString "io.noyx.ariava.bridge"
  configPath : JsString
  plistPath : JsString
  stdoutLogPath : JsString
  stderrLogPath : JsString

/-- `absoluteServicePath`. -/
def absoluteServicePath (path : JsString) (field : String) : Except AriavaCliError JsString := do
  throwIf (!isAbsolute path || path.any isControlUnit)
    ⟨"ERR_SERVICE_INSTALL", "Launchd service " ++ field ++ " must be a safe absolute path.",
      [("backend", "launchd"), ("field", field)]⟩
  return resolve path

/-- `buildLaunchdServiceDefinition`. -/
def buildLaunchdServiceDefinition (defaults : LaunchdDefaults) (nodePath ariavaBinPath : JsString)
    (configPathOrOverrides : ConfigPathOrOverrides) (overrides : LaunchdOverrides) :
    Except AriavaCliError LaunchdServiceDefinition := do
  let absoluteNodePath ← absoluteServicePath nodePath "runtimePath"
  let absoluteAriavaBinPath ← absoluteServicePath ariavaBinPath "ariavaBinPath"
  let resolvedOverrides := match configPathOrOverrides with
    | .configPath _ => overrides
    | .overrides given => given
  let absoluteConfigPath ← absoluteServicePath
    (match configPathOrOverrides with
      | .configPath path => path
      | .overrides _ => defaults.configPath) "configPath"
  return {
    label := resolvedOverrides.serviceId.getD defaults.label
    nodePath := absoluteNodePath
    ariavaBinPath := absoluteAriavaBinPath
    configPath := absoluteConfigPath
    plistPath := resolvedOverrides.definitionPath.getD defaults.plistPath
    stdoutPath := resolvedOverrides.stdoutLogPath.getD defaults.stdoutLogPath
    stderrPath := resolvedOverrides.stderrLogPath.getD defaults.stderrLogPath
    programArguments := [absoluteNodePath, absoluteAriavaBinPath, jsString "internal",
      jsString "bridge-daemon", jsString "--config", absoluteConfigPath]
    enabled := resolvedOverrides.enabled.getD true }

/-! ### The property list -/

/-- `replaceAll` of one character. -/
def replaceUnit (unit : UInt16) (replacement value : JsString) : JsString :=
  replaceAll [unit] replacement value

/-- `escapeXml`. -/
def escapeXml (value : JsString) : JsString :=
  let value := replaceUnit (ascii '&') (jsString "&amp;") value
  let value := replaceUnit (ascii '<') (jsString "&lt;") value
  let value := replaceUnit (ascii '>') (jsString "&gt;") value
  let value := replaceUnit (ascii '"') (jsString "&quot;") value
  replaceUnit (ascii '\'') (jsString "&apos;") value

/-- `decodeXml`. -/
def decodeXml (value : JsString) : JsString :=
  let value := replaceAll (jsString "&apos;") [ascii '\''] value
  let value := replaceAll (jsString "&quot;") [ascii '"'] value
  let value := replaceAll (jsString "&gt;") [ascii '>'] value
  let value := replaceAll (jsString "&lt;") [ascii '<'] value
  replaceAll (jsString "&amp;") [ascii '&'] value

/-- The line of one program argument. -/
def argumentLine (argument : JsString) : JsString :=
  jsString "      <string>" ++ (escapeXml argument ++ jsString "</string>")

/-- The text in front of the label. -/
def plistStart : JsString := jsString
  "<?xml version=\"1.0\" encoding=\"UTF-8\"?>
<!DOCTYPE plist PUBLIC \"-//Apple//DTD PLIST 1.0//EN\" \"http://www.apple.com/DTDs/PropertyList-1.0.dtd\">
<plist version=\"1.0\">
  <dict>
    <key>Label</key>
    <string>"

/-- The text between the label and the program arguments. -/
def plistArguments : JsString := jsString "</string>
    <key>ProgramArguments</key>
    <array>
"

/-- The text between the program arguments and the path of the standard output. -/
def plistSwitches (enabled : Bool) : JsString :=
  let switch := jsString (if enabled then "true" else "false")
  jsString "
    </array>
    <key>RunAtLoad</key>
    <" ++ (switch ++ (jsString "/>
    <key>KeepAlive</key>
    <" ++ (switch ++ jsString "/>
    <key>StandardOutPath</key>
    <string>")))

/-- The text between the two paths. -/
def plistErrorPath : JsString := jsString "</string>
    <key>StandardErrorPath</key>
    <string>"

/-- The text behind the path of the standard error. -/
def plistEnd : JsString := jsString "</string>
  </dict>
</plist>
"

/-- `escapedArgs`: the lines of the program arguments. -/
def escapedArgs (programArguments : List JsString) : JsString :=
  List.intercalate (jsString "\n") (programArguments.map argumentLine)

/-- `renderLaunchdPlist`. -/
def renderLaunchdPlist (definition : LaunchdServiceDefinition) : JsString :=
  plistStart ++ (escapeXml definition.label ++ (plistArguments
    ++ (escapedArgs definition.programArguments ++ (plistSwitches definition.enabled
      ++ (escapeXml definition.stdoutPath ++ (plistErrorPath
        ++ (escapeXml definition.stderrPath ++ plistEnd)))))))

/-! ### Reading the arguments back -/

/-- A character of `\s`. -/
def isSpaceUnit (unit : UInt16) : Bool :=
  (decide (0x09 ≤ unit) && decide (unit ≤ 0x0d)) || decide (unit = 0x20) || decide (unit = 0xa0)
    || decide (unit = 0x1680) || (decide (0x2000 ≤ unit) && decide (unit ≤ 0x200a))
    || decide (unit = 0x2028) || decide (unit = 0x2029) || decide (unit = 0x202f)
    || decide (unit = 0x205f) || decide (unit = 0x3000) || decide (unit = 0xfeff)

/-- A line terminator of the language. -/
def isLineTerminator (unit : UInt16) : Bool :=
  decide (unit = 0x0a) || decide (unit = 0x0d) || decide (unit = 0x2028) || decide (unit = 0x2029)

/-- `/<key>ProgramArguments<\/key>\s*<array>([\s\S]*?)<\/array>/`, with its group. -/
def argumentsBlock : Matcher UInt16 JsString := fun text => do
  let spaces ← dropWord (jsString "<key>ProgramArguments</key>") text
  let array := spaces.dropWhile isSpaceUnit
  let (block, taken) ← bracketed (fun _ => true) (jsString "<array>") (jsString "</array>") array
  return (block, text.length - array.length + taken)

/-- `/<string>(.*?)<\/string>/`, with its group. -/
def stringEntry : Matcher UInt16 JsString :=
  bracketed (fun unit => !isLineTerminator unit) (jsString "<string>") (jsString "</string>")

/-- `parseProgramArgumentsFromPlist`, on the file there is. -/
def parseProgramArgumentsFromPlist (file : Option JsString) : List JsString :=
  match file with
  | none => []
  | some plist =>
      match firstMatch argumentsBlock plist with
      | none => []
      | some block => (matchAll stringEntry block).map decodeXml

/-- The file that is read after a definition was written. -/
def writtenPlist (definition : LaunchdServiceDefinition) : JsString :=
  toWellFormed (renderLaunchdPlist definition)

end Ariava.HostManager
