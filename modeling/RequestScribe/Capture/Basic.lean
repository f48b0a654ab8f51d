import RequestScribe.Json.Node
import RequestScribe.Text.Basic

/-!
# Captures

The requests that a browser recorded in an HTTP archive.  Of an archive, only
what the requests consist of is read.
-/

namespace RequestScribe

structure PostedParam where
  name : String
  value? : Option String := none
  fileName? : Option String := none
  contentType? : Option String := none
  deriving DecidableEq, Repr

structure PostedData where
  mimeType : String := ""
  text? : Option String := none
  params? : Option (List PostedParam) := none
  deriving DecidableEq, Repr

structure CapturedRequest where
  method : String
  /-- The whole address with its query. -/
  url : String
  headers : List (String × String) := []
  posted? : Option PostedData := none
  deriving DecidableEq, Repr

/-- The value of the first header with a given name. -/
def CapturedRequest.header? (r : CapturedRequest) (name : String) : Option String :=
  Ordered.find? Text.sameIgnoringCase name r.headers

structure Capture where
  /-- The requests of the archive's log, if it has one. -/
  logged? : Option (List CapturedRequest) := none
  /-- Requests outside a log. -/
  listed : List CapturedRequest := []
  deriving DecidableEq, Repr

/-- The requests of the log, or those outside a log where it has none. -/
def Capture.requests (c : Capture) : List CapturedRequest :=
  match c.logged? with
  | some (first :: rest) => first :: rest
  | _ => c.listed

open Json (Node)

namespace PostedParam

def ofNode? (node : Node) : Option PostedParam :=
  match node.record? ["name", "value", "fileName", "contentType"] with
  | some [name, value, fileName, contentType] => do
      return {
        name := ← Node.required? Node.text? name
        value? := ← Node.optional? Node.text? value
        fileName? := ← Node.optional? Node.text? fileName
        contentType? := ← Node.optional? Node.text? contentType }
  | _ => none

end PostedParam

namespace PostedData

def ofNode? (node : Node) : Option PostedData :=
  match node.record? ["mimeType", "text", "params"] with
  | some [mimeType, text, params] => do
      return {
        mimeType := ← Node.defaulted? "" Node.text? mimeType
        text? := ← Node.optional? Node.text? text
        params? := ← Node.optional? (Node.list? PostedParam.ofNode?) params }
  | _ => none

end PostedData

namespace CapturedRequest

def headerOfNode? (node : Node) : Option (String × String) :=
  match node.record? ["name", "value"] with
  | some [name, value] => do
      return (← Node.required? Node.text? name, ← Node.required? Node.text? value)
  | _ => none

def ofNode? (node : Node) : Option CapturedRequest :=
  match node.record? ["method", "url", "headers", "postData"] with
  | some [method, url, headers, posted] => do
      return {
        method := ← Node.required? Node.text? method
        url := ← Node.required? Node.text? url
        headers := ← Node.defaulted? [] (Node.list? headerOfNode?) headers
        posted? := ← Node.optional? PostedData.ofNode? posted }
  | _ => none

def ofEntry? (node : Node) : Option CapturedRequest :=
  match node.record? ["request"] with
  | some [request] => Node.required? ofNode? request
  | _ => none

def read? (text : String) : Option CapturedRequest :=
  (Node.read? text).bind ofNode?

end CapturedRequest

namespace Capture

def entriesOfNode? : Node → Option (List CapturedRequest) :=
  Node.list? CapturedRequest.ofEntry?

def logOfNode? (node : Node) : Option (List CapturedRequest) :=
  match node.record? ["entries"] with
  | some [entries] => Node.defaulted? [] entriesOfNode? entries
  | _ => none

def ofNode? (node : Node) : Option Capture :=
  match node.record? ["log", "entries"] with
  | some [log, entries] => do
      return {
        logged? := ← Node.optional? logOfNode? log
        listed := ← Node.defaulted? [] entriesOfNode? entries }
  | _ => none

def read? (text : String) : Option Capture :=
  (Node.read? text).bind ofNode?

end Capture

end RequestScribe
