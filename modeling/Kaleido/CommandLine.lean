import Kaleido.Compilation
import Kaleido.Diagnostic.Excerpt
import Kaleido.FileTree

/-!
# The command line

Arguments name one source file and say what to show of it. A run reports the items as they are
accepted, the diagnostics as they arise, and excerpts of the source at the end.
-/
namespace Kaleido.CommandLine

/-- What is to be done with a source. -/
structure Flags where
  /-- Whether accepted items are shown as s-expressions. -/
  showItems : Bool := false
  /-- Whether generated code is to be shown. -/
  showCode : Bool := false
  /-- Where generated code is to be written. -/
  emit : Option String := none
  /-- Whether generated code is to be optimised. -/
  optimise : Bool := false
deriving Repr, DecidableEq

/-- What the arguments ask for. -/
structure Options where
  file : String
  flags : Flags
deriving Repr, DecidableEq

/-- The form of the arguments. -/
def usage : String := "usage: exprc <file> [--ast] [--ir] [--emit <path>] [-O]"

/-- Why a run cannot begin or go on. -/
inductive Failure where
  | missingPath
  | unknownOption (option : String)
  | secondFile
  | noFile
  | unreadable (file : String) (failure : ReadFailure)
  /-- Code is asked for, and this program generates none. -/
  | noGenerator
deriving Repr, DecidableEq

/-- The failure in words. -/
def Failure.message : Failure → String
  | .missingPath => "--emit needs a path\n" ++ usage
  | .unknownOption option => "unknown option `" ++ option ++ "`\n" ++ usage
  | .secondFile => "only one input file is supported\n" ++ usage
  | .noFile => "no input file\n" ++ usage
  | .unreadable file failure => "failed to read `" ++ file ++ "`: " ++ failure.message
  | .noGenerator => "--ir, --emit and -O need a build with the `llvm` feature"

/-- The options of the arguments from some point on, given what those before it said. -/
def Options.collect (file : Option String) (flags : Flags) :
    List String → Except Failure Options
  | [] =>
    match file with
    | some file => .ok ⟨file, flags⟩
    | none => .error .noFile
  | "--ast" :: rest => collect file { flags with showItems := true } rest
  | "--ir" :: rest => collect file { flags with showCode := true } rest
  | "-O" :: rest => collect file { flags with optimise := true } rest
  | "--emit" :: path :: rest => collect file { flags with emit := some path } rest
  | ["--emit"] => .error .missingPath
  | argument :: rest =>
    if argument.toList.head? = some '-' then .error (.unknownOption argument)
    else if file.isSome then .error .secondFile
    else collect (some argument) flags rest

/-- The options that arguments give. -/
def Options.parse (arguments : List String) : Except Failure Options := collect none {} arguments

/-- Whether the flags ask for code. -/
def Flags.needGenerator (flags : Flags) : Bool :=
  flags.showCode || flags.emit.isSome || flags.optimise

/-- A part of a run whose duration is reported. -/
inductive Phase where
  | reading
  | compiling
  | whole
deriving Repr, DecidableEq

/-- A piece of what a run writes. -/
inductive Piece where
  /-- Text for the standard output. -/
  | out (text : String)
  /-- Text for the standard error output. -/
  | err (text : String)
  /-- A line for the standard output: a label and the duration of a phase. -/
  | elapsed (label : String) (phase : Phase)
deriving Repr, DecidableEq

/-- How a run ends. -/
inductive Ending where
  | success
  /-- There are diagnostics, or the run cannot begin or go on. -/
  | failure
  /-- An excerpt cannot be written, and nothing that was to follow it is. -/
  | broken
deriving Repr, DecidableEq

/-- The exit status of a run. -/
def Ending.status : Ending → Nat
  | .success => 0
  | .failure => 1
  | .broken => 101

/-- What a run writes, and how it ends. -/
structure Report where
  pieces : List Piece
  ending : Ending
deriving Repr, DecidableEq

/-- The line for an accepted item. -/
def itemLine : Item → String
  | .definition _ => "Parsed a function definition.\n"
  | .external _ => "Parsed an extern.\n"
  | .expression _ => "Parsed a top-level expr\n"

/-- What is written about one item. -/
def eventPieces (flags : Flags) : Event → List Piece
  | .accepted item _ =>
    .out (itemLine item) :: if flags.showItems then [.out (item.text ++ "\n")] else []
  | .rejected diagnostic => [.err ("error: " ++ diagnostic.message ++ "\n")]

/-- A run that fails after some pieces. -/
def Report.failed (pieces : List Piece) (failure : Failure) : Report :=
  ⟨pieces ++ [.err ("error: " ++ failure.message ++ "\n")], .failure⟩

/-- What follows a compilation: the excerpts of its diagnostics and the time of the whole run. The
ending given is that of a run without diagnostics from here on; one diagnostic makes it a failure.
The run breaks off at the first excerpt that is too wide. -/
def closing (source file : String) (ending : Ending) : List Diagnostic → Report
  | [] => ⟨[.elapsed "Total time: " .whole], ending⟩
  | diagnostic :: rest =>
    match diagnostic.excerpt? source file with
    | none => ⟨[.err "Formatting argument out of range\n"], .broken⟩
    | some text =>
      let following := closing source file .failure rest
      ⟨.out text :: following.pieces, following.ending⟩

/-- The report on a source that was read, or on the failure to read it. -/
def report (options : Options) (contents : Except ReadFailure String) : Report :=
  match contents with
  | .error failure => .failed [] (.unreadable options.file failure)
  | .ok source =>
    let read := Piece.elapsed "Read in " .reading
    if options.flags.needGenerator then .failed [read] .noGenerator
    else
      let compilation := compile source
      let following := closing source options.file .success compilation.diagnostics
      ⟨[read] ++ compilation.events.flatMap (eventPieces options.flags) ++
          [.elapsed "Compiled in " .compiling] ++ following.pieces, following.ending⟩

/-- A run on the files of a tree. -/
def run (arguments : List String) (files : FileTree) : Report :=
  match Options.parse arguments with
  | .error failure => .failed [] failure
  | .ok options => report options (files.read options.file)

/-- A time in nanoseconds, in the largest unit that makes it at least one. -/
def durationText (nanoseconds : Nat) : String :=
  if nanoseconds ≥ 1000000000 then scaled 9 ++ "s"
  else if nanoseconds ≥ 1000000 then scaled 6 ++ "ms"
  else if nanoseconds ≥ 1000 then scaled 3 ++ "µs"
  else nanoseconds.repr ++ "ns"
where
  /-- The time in units of a power of ten, without zeros at the end of the fraction. -/
  scaled (places : Nat) : String :=
    let unit := Decimal.tenTo places
    let fraction := (Decimal.paddedDigits places (nanoseconds % unit)).reverse.dropWhile (· = '0')
    (nanoseconds / unit).repr ++
      if fraction.isEmpty then "" else "." ++ String.ofList fraction.reverse

end Kaleido.CommandLine
