import TypeScriptBuild.Condition
import TypeScriptBuild.Defaults
import TypeScriptBuild.Dictionary
import TypeScriptBuild.Error
import TypeScriptBuild.Files.Folder
import TypeScriptBuild.Files.Store
import TypeScriptBuild.Node
import TypeScriptBuild.Project
import TypeScriptBuild.Proofs.Condition.Agreement
import TypeScriptBuild.Proofs.Condition.Binding
import TypeScriptBuild.Proofs.Condition.Guard
import TypeScriptBuild.Proofs.Condition.Layout
import TypeScriptBuild.Proofs.Condition.Refusal
import TypeScriptBuild.Proofs.Condition.Spelling
import TypeScriptBuild.Proofs.Defaults
import TypeScriptBuild.Proofs.Fragment
import TypeScriptBuild.Proofs.Node.Canonical
import TypeScriptBuild.Proofs.Node.Correspondence
import TypeScriptBuild.Proofs.Node.Growth
import TypeScriptBuild.Proofs.Node.History
import TypeScriptBuild.Proofs.Node.Interchange
import TypeScriptBuild.Proofs.Node.Retouching
import TypeScriptBuild.Proofs.Project.DocumentOrder
import TypeScriptBuild.Proofs.Project.FirstBound
import TypeScriptBuild.Proofs.Project.Interchange
import TypeScriptBuild.Proofs.Project.Isolation
import TypeScriptBuild.Proofs.Project.LastGroup
import TypeScriptBuild.Proofs.Project.Overriding
import TypeScriptBuild.Proofs.Project.OwnDefault
import TypeScriptBuild.Proofs.Resolution.Explicit
import TypeScriptBuild.Proofs.Resolution.Failure
import TypeScriptBuild.Proofs.Resolution.Footprint
import TypeScriptBuild.Proofs.Resolution.Interchange
import TypeScriptBuild.Proofs.Resolution.Precedence
import TypeScriptBuild.Proofs.Resolution.Stage
import TypeScriptBuild.Proofs.Search.Dialogue
import TypeScriptBuild.Proofs.Search.Distinct
import TypeScriptBuild.Proofs.Search.FirstPlace
import TypeScriptBuild.Proofs.Search.Rendering
import TypeScriptBuild.Proofs.Setting
import TypeScriptBuild.Proofs.Text.Cut
import TypeScriptBuild.Proofs.Text.Prompt
import TypeScriptBuild.Proofs.Version.Normal
import TypeScriptBuild.Proofs.Version.Order
import TypeScriptBuild.Proofs.Version.Release
import TypeScriptBuild.Proofs.Version.Strict
import TypeScriptBuild.Proofs.Version.Written
import TypeScriptBuild.Resolution.Report
import TypeScriptBuild.Resolution.Resolver
import TypeScriptBuild.Resolution.Session
import TypeScriptBuild.Search
import TypeScriptBuild.Setting.Assignment
import TypeScriptBuild.Setting.Basic
import TypeScriptBuild.Setting.Compiler
import TypeScriptBuild.Text.Basic
import TypeScriptBuild.Text.Shown
import TypeScriptBuild.Version
import TypeScriptBuild.Xml.Reader
import TypeScriptBuild.Xml.Token
