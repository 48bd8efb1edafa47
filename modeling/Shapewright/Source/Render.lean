import Shapewright.Settings.Basic
import Shapewright.Source.Conversion
import Shapewright.Source.Record
import Shapewright.Source.UnionStruct

/-!
# Generated source

The whole source of a graph: a comment on how to use it, and one namespace with the conversion, the
classes in order of declaration and the unions in order of first occurrence. Settings choose names
that must be avoided, the namespace and the layout.
-/
namespace Shapewright.Source
open Layout Plan

def commentLines (ns : String) : List String := [
  "// To parse this JSON data, add NuGet 'Newtonsoft.Json' then do:",
  "//",
  "//    using " ++ ns ++ ";",
  "//",
  "//    var data = " ++ ns ++ ".Convert.FromJson(jsonString);",
  "//"]

def systemUsings : List String := [
  "using System;", "using System.Net;", "using System.Collections.Generic;"]

def jsonUsings : List String := ["using Newtonsoft.Json;"]

def each {α : Type} (ops : α → Except EmitError (List Op)) :
    List α → Except EmitError (List (List Op))
  | [] => .ok []
  | a :: as => do
    let first ← ops a
    return first :: (← each ops as)

/-- There is a converter as soon as there is a union. -/
def converterParts (p : Plan) : Except EmitError (List (List Op)) :=
  if p.unions.isEmpty then .ok [] else (converterOps p).map ([·])

/-- The declarations of the source, one part each. -/
def declarations (p : Plan) : Except EmitError (List (List Op)) := do
  let entry ← entryOps p
  let converter ← converterParts p
  let records ← each (recordOps p) p.graph.classes
  let unions ← each (unionOps p) p.unions
  return entry :: converter ++ records ++ unions

def namespaceOps (ns : String) (parts : List (List Op)) : List Op :=
  [.block (some ("namespace " ++ ns))
    [.lines systemUsings, .blank, .lines jsonUsings, .blank, .separated parts]]

def headerOps (s : Settings) : List Op :=
  if s.headerComment then [.lines (commentLines s.namespaceName)] else []

def planFor (g : Graph) (s : Settings) : Except EmitError Plan := Plan.ofGraph g s.effectiveNames

def ops (g : Graph) (s : Settings) : Except EmitError (List Op) := do
  let p ← planFor g s
  let parts ← declarations p
  return headerOps s ++ namespaceOps s.namespaceName parts

def indentUnit (s : Settings) : String := String.ofList (List.replicate s.indentWidth ' ')

/-- The text of the source. -/
def render (g : Graph) (s : Settings) : Except EmitError String := do
  return renderLines (indentUnit s) s.lineEnd.text (linesOf (← ops g s))

end Shapewright.Source
