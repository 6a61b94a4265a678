import LintBridge.Document
import LintBridge.FileSystem.Resolution
import LintBridge.FileUri.Printer

/-!
Documents and workspace folders from the file system.

Both are known by the URI of their resolved path. The octets of a file must be UTF-8; its line ends
all become line feeds, and a byte order mark stays.
-/
set_option autoImplicit false

namespace LintBridge

inductive LoadFault where
  | resolve (fault : ResolveFault)
  | read (fault : FileFault) (path : Path)
  | decode (fault : Text.Utf8.DecodeError)

def LoadFault.message : LoadFault → String
  | .resolve fault => fault.message
  | .read fault path => fault.messageAt path
  | .decode fault => fault.message

def Document.textOf (octets : List UInt8) : Except Text.Utf8.DecodeError String :=
  (Text.Utf8.decode octets).map fun text => String.ofList (Text.unifyLineEnds text)

def Document.load (fs : FileSystem) (p : Path) : Except LoadFault Document :=
  match fs.resolve p with
  | .error fault => .error (.resolve fault)
  | .ok resolved =>
    match fs.read resolved with
    | .error fault => .error (.read fault resolved)
    | .ok octets =>
      match Document.textOf octets with
      | .error fault => .error (.decode fault)
      | .ok text => .ok ⟨FileUri.ofPath resolved, text, "shellscript"⟩

/-- The workspace folder at a path. A name that is not given or empty is that of the directory. -/
def WorkspaceFolder.load (fs : FileSystem) (p : Path) (name : Option String) :
    Except ResolveFault WorkspaceFolder :=
  (fs.resolve p).map fun resolved =>
    match name with
    | some name => ⟨FileUri.ofPath resolved, if name = "" then resolved.name else name⟩
    | none => ⟨FileUri.ofPath resolved, resolved.name⟩

end LintBridge
