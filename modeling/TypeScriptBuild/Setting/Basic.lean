/-!
# Settings

The TypeScript settings that a project file may give, each read from an element of its own. Their
order here is the order in which they are listed everywhere.

* `Kind`: how the value of a setting is understood.
* `Setting`: the settings, with `Setting.all`, `Setting.name`, `Setting.kind` and `Setting.tag`.
* `Setting.ofName?`: the setting of a name.
-/

namespace TypeScriptBuild

/-- How the value of a setting is understood. -/
inductive Kind where
  /-- Text as it stands. -/
  | text
  /-- On or off. -/
  | flag
  /-- Text with slashes between its parts. -/
  | path
  deriving DecidableEq, Repr, Inhabited

/-- A TypeScript setting. -/
inductive Setting where
  | additionalFlags
  | allowSyntheticDefaultImports
  | allowUnusedLabels
  | allowUnreachableCode
  | charset
  | codePage
  | compileBlocked
  | compileOnSaveEnabled
  | emitBOM
  | emitDecoratorMetadata
  | experimentalAsyncFunctions
  | experimentalDecorators
  | forceConsistentCasingInFileNames
  | generatesDeclarations
  | inlineSourceMap
  | inlineSources
  | isolatedModules
  | jsxEmit
  | mapRoot
  | moduleKind
  | moduleResolution
  | newLine
  | noEmitOnError
  | noEmitHelpers
  | noFallthroughCasesInSwitch
  | noImplicitAny
  | noImplicitReturns
  | noImplicitUseStrict
  | noLib
  | noResolve
  | outDir
  | outFile
  | preferredUILang
  | preserveConstEnums
  | reactNamespace
  | removeComments
  | rootDir
  | skipDefaultLibCheck
  | sourceMap
  | sourceRoot
  | suppressImplicitAnyIndexErrors
  | suppressExcessPropertyErrors
  | target
  deriving DecidableEq, Repr, Inhabited

namespace Setting

/-- Every setting, in order. -/
def all : List Setting :=
  [.additionalFlags, .allowSyntheticDefaultImports, .allowUnusedLabels, .allowUnreachableCode,
    .charset, .codePage, .compileBlocked, .compileOnSaveEnabled, .emitBOM, .emitDecoratorMetadata,
    .experimentalAsyncFunctions, .experimentalDecorators, .forceConsistentCasingInFileNames,
    .generatesDeclarations, .inlineSourceMap, .inlineSources, .isolatedModules, .jsxEmit,
    .mapRoot, .moduleKind, .moduleResolution, .newLine, .noEmitOnError, .noEmitHelpers,
    .noFallthroughCasesInSwitch, .noImplicitAny, .noImplicitReturns, .noImplicitUseStrict, .noLib,
    .noResolve, .outDir, .outFile, .preferredUILang, .preserveConstEnums, .reactNamespace,
    .removeComments, .rootDir, .skipDefaultLibCheck, .sourceMap, .sourceRoot,
    .suppressImplicitAnyIndexErrors, .suppressExcessPropertyErrors, .target]

/-- The name of a setting. -/
def name : Setting → String
  | .additionalFlags => "AdditionalFlags"
  | .allowSyntheticDefaultImports => "AllowSyntheticDefaultImports"
  | .allowUnusedLabels => "AllowUnusedLabels"
  | .allowUnreachableCode => "AllowUnreachableCode"
  | .charset => "Charset"
  | .codePage => "CodePage"
  | .compileBlocked => "CompileBlocked"
  | .compileOnSaveEnabled => "CompileOnSaveEnabled"
  | .emitBOM => "EmitBOM"
  | .emitDecoratorMetadata => "EmitDecoratorMetadata"
  | .experimentalAsyncFunctions => "ExperimentalAsyncFunctions"
  | .experimentalDecorators => "ExperimentalDecorators"
  | .forceConsistentCasingInFileNames => "ForceConsistentCasingInFileNames"
  | .generatesDeclarations => "GeneratesDeclarations"
  | .inlineSourceMap => "InlineSourceMap"
  | .inlineSources => "InlineSources"
  | .isolatedModules => "IsolatedModules"
  | .jsxEmit => "JSXEmit"
  | .mapRoot => "MapRoot"
  | .moduleKind => "ModuleKind"
  | .moduleResolution => "ModuleResolution"
  | .newLine => "NewLine"
  | .noEmitOnError => "NoEmitOnError"
  | .noEmitHelpers => "NoEmitHelpers"
  | .noFallthroughCasesInSwitch => "NoFallthroughCasesInSwitch"
  | .noImplicitAny => "NoImplicitAny"
  | .noImplicitReturns => "NoImplicitReturns"
  | .noImplicitUseStrict => "NoImplicitUseStrict"
  | .noLib => "NoLib"
  | .noResolve => "NoResolve"
  | .outDir => "OutDir"
  | .outFile => "OutFile"
  | .preferredUILang => "PreferredUILang"
  | .preserveConstEnums => "PreserveConstEnums"
  | .reactNamespace => "ReactNamespace"
  | .removeComments => "RemoveComments"
  | .rootDir => "RootDir"
  | .skipDefaultLibCheck => "SkipDefaultLibCheck"
  | .sourceMap => "SourceMap"
  | .sourceRoot => "SourceRoot"
  | .suppressImplicitAnyIndexErrors => "SuppressImplicitAnyIndexErrors"
  | .suppressExcessPropertyErrors => "SuppressExcessPropertyErrors"
  | .target => "Target"

/-- The kind of a setting. -/
def kind : Setting → Kind
  | .mapRoot | .outDir | .outFile | .rootDir | .sourceRoot => .path
  | .additionalFlags | .charset | .codePage | .jsxEmit | .moduleKind | .moduleResolution
  | .newLine | .preferredUILang | .reactNamespace | .target => .text
  | _ => .flag

/-- The tag of the element that gives a setting in project and defaults files. -/
def tag (s : Setting) : String :=
  "TypeScript" ++ s.name

/-- The setting of a name, which is case-sensitive. -/
def ofName? (name : String) : Option Setting :=
  all.find? fun s => s.name == name

/-- No setting is missing from the list of all. -/
theorem mem_all (s : Setting) : s ∈ all := by
  cases s <;> decide

end Setting

end TypeScriptBuild
