import GirAda.Generator.Class
import GirAda.Config.Basic
import GirAda.Ada.PackageSet
import GirAda.Gir.Repository

/-!
# Generation runs

A run binds every class of a repository that is not a hook class (or only the one class the
settings name) in document order, collecting the packages in one `PackageSet`, and then writes
every package once, each after the fixed file header. What could not be bound is reported in
the order it was met.

A run fails only when the one class it was told to generate does not exist.
-/

namespace GirAda

open GirAda.Gir GirAda.Ada GirAda.Override

/-- The header written before every package specification and body. Its last line has no line
break: the text of the package starts right after the closing parenthesis of the last pragma. -/
def fileHeader : String :=
  "\n".intercalate [
    "------------------------------------------------------------------------------",
    "--                  GtkAda - Ada95 binding for Gtk+/Gnome                   --",
    "--                                                                          --",
    "-- This library is free software;  you can redistribute it and/or modify it --",
    "-- under terms of the  GNU General Public License  as published by the Free --",
    "-- Software  Foundation;  either version 3,  or (at your  option) any later --",
    "-- version. This library is distributed in the hope that it will be useful, --",
    "-- but WITHOUT ANY WARRANTY;  without even the implied warranty of MERCHAN- --",
    "-- TABILITY or FITNESS FOR A PARTICULAR PURPOSE.                            --",
    "--                                                                          --",
    "-- This file is generated from the introspection data. Edit the override    --",
    "-- database rather than this file.                                          --",
    "------------------------------------------------------------------------------",
    "",
    "pragma Style_Checks (Off);",
    "pragma Warnings (Off, \"*is already use-visible*\");"]

/-- Why a run, or writing its text, failed. -/
inductive RunError where
  /-- The repository could not give what was asked of it. -/
  | extract (e : LoadError)
  /-- The text could not be written to a path. -/
  | failedToWrite (path : String) (fault : FileFault)
  deriving Repr

namespace RunError

/-- The text of the error. -/
def message : RunError → String
  | .extract _ => "Extraction error"
  | .failedToWrite p _ => "Failed to write output to \"" ++ p ++ "\""

/-- The errors behind the error, outermost first. -/
def causes : RunError → List String
  | .extract e => e.message :: e.causes
  | .failedToWrite _ f => [f.message]

end RunError

/-- The result of a run. -/
structure Output where
  /-- Every package, ready to be written. -/
  text : String
  /-- Everything that was left out, in the order it was met. -/
  diagnostics : List Diagnostic
  /-- The number of packages. -/
  numPackages : Nat
  deriving Inhabited

namespace Generator

/-- The generator for a repository, overrides and settings: the namespace's naming with the
settings' exceptions, the default type table and property types. -/
def new (repo : Repository) (overrides : Registry) (config : Config) : Generator :=
  let naming := (Naming.new repo.space).withExceptions config.namingExceptions
  ⟨⟨⟨repo, naming, TypeTable.default⟩, overrides⟩, PropertyTypes.default⟩

/-- The repository in use. -/
def repository (g : Generator) : Repository := g.resolver.repository

/-- Add one class to its package: the package named by its class names, or the one the overrides
merge it into. -/
def addClass (g : Generator) (acc : PackageSet × List Diagnostic) (c : GirClass) :
    PackageSet × List Diagnostic :=
  let names := ClassNames.of g.naming c.name
  let target := (g.overrides.mergeInto names.package).getD names.package
  let d := g.classDraft c names target (acc.1.current target)
  (acc.1.put target d.package, acc.2 ++ d.diagnostics)

/-- The classes a run generates. -/
def selected (g : Generator) (config : Config) : Except RunError (List GirClass) :=
  match config.onlyClass with
  | some name =>
    match g.repository.getClass name with
    | .ok c => .ok [c]
    | .error e => .error (.extract e)
  | none => .ok ((g.repository.classes.entries.filter fun e => !config.isHookClass e.1).map Prod.snd)

/-- Add the selected classes to a set of packages, with what was left out. -/
def generateInto (g : Generator) (config : Config) (ps : PackageSet) :
    Except RunError (PackageSet × List Diagnostic) := do
  let classes ← g.selected config
  return classes.foldl g.addClass (ps, [])

/-- A whole run: the selected classes, every package written after the header. -/
def generate (g : Generator) (config : Config) : Except RunError Output := do
  let (ps, diagnostics) ← g.generateInto config PackageSet.empty
  return ⟨ps.render fileHeader, diagnostics, ps.size⟩

end Generator

end GirAda
