import Stencil.CommandLine.Usage

/-!
# Failures

Why a command fails, and how it is told.
-/
namespace Stencil.CommandLine

inductive FileFault where
  /-- The system refuses it, with a text and a number. -/
  | refused (reason : String) (code : Nat)
  /-- Its bytes are no text. -/
  | notText
  deriving DecidableEq, Repr

namespace FileFault

def notFound : FileFault := refused "No such file or directory" 2

def notDirectory : FileFault := refused "Not a directory" 20

def isDirectory : FileFault := refused "Is a directory" 21

def message : FileFault → String
  | refused reason code => reason ++ " (os error " ++ toString code ++ ")"
  | notText => "stream did not contain valid UTF-8"

end FileFault

inductive Failure where
  | configFile (path : String) (fault : FileFault)
  | configSyntax (path : String)
  | templateFile (path : String) (fault : FileFault)
  | dataFile (path : String) (fault : FileFault)
  | dataSyntax (path : String)
  /-- The value of an option has no equals sign. -/
  | noPair (s : Switch) (value : String)
  | includeFile (path : String) (fault : FileFault)
  deriving DecidableEq, Repr

def Failure.message : Failure → String
  | configFile path fault =>
    "Failed to load config: Failed to read config file '" ++ path ++ "': " ++ fault.message ++ ": "
      ++ fault.message
  | configSyntax path => "Failed to load config: Failed to parse config file '" ++ path ++ "'"
  | templateFile path fault => "Failed to read template '" ++ path ++ "': " ++ fault.message
  | dataFile path fault => "Failed to read data file '" ++ path ++ "': " ++ fault.message
  | dataSyntax path => "Failed to parse data file '" ++ path ++ "'"
  | noPair s value => "--" ++ s.long ++ " expects key=value, got '" ++ value ++ "'"
  | includeFile path fault => "Failed to read include '" ++ path ++ "': " ++ fault.message

end Stencil.CommandLine
