import ProtoRest.Path.Layout
import ProtoRest.Schema.Load
import ProtoRest.Schema.ModulePath
import ProtoRest.Route.Site
import ProtoRest.Route.Server
import ProtoRest.ErrorSet.Table
import ProtoRest.ErrorSet.Accessors
import ProtoRest.Plugin.Tool
import ProtoRest.Main
import ProtoRest.Proofs.Route.Acceptance
import ProtoRest.Proofs.Plugin.Schedules
import ProtoRest.Proofs.Text.Words
import ProtoRest.Proofs.Code.Tokens
import ProtoRest.Proofs.Code.TypeReading
import ProtoRest.Proofs.Code.CompleteSyntax
import ProtoRest.Proofs.Code.PathTypes
import ProtoRest.Proofs.Code.TypeArguments
import ProtoRest.Proofs.Code.TypeTexts
import ProtoRest.Proofs.Code.GenericTypes
import ProtoRest.Proofs.Route.FieldTypes
import ProtoRest.Proofs.Code.Identifiers
import ProtoRest.Proofs.Route.ItemNames
import ProtoRest.Proofs.Route.BoundFields
import ProtoRest.Proofs.Route.CompleteServer
import ProtoRest.Proofs.Route.ServerVerdict
import ProtoRest.Proofs.Route.TableVerdict
import ProtoRest.ErrorSet.Legible
import ProtoRest.Proofs.ErrorSet.VariantNames
import ProtoRest.Proofs.ErrorSet.CompleteAccessors
import ProtoRest.Proofs.ErrorSet.TableVerdict
import ProtoRest.Proofs.Schema.NamedPaths
import ProtoRest.Descriptor.Named
import ProtoRest.Proofs.Descriptor.NamedPool
import ProtoRest.Proofs.Plugin.NamedFiles
import ProtoRest.Proofs.Plugin.Defects
import ProtoRest.Proofs.Path.ReadTemplates
import ProtoRest.Proofs.Route.Mounts
import ProtoRest.Proofs.Route.RouterLines
import ProtoRest.Code.ItemName
import ProtoRest.Proofs.Descriptor.ResolvedPool
import ProtoRest.Proofs.Plugin.FileFaults
import ProtoRest.Proofs.Route.DistinctNames
import ProtoRest.Proofs.Path.SpelledTemplates
import ProtoRest.Proofs.Path.KeptPaths
import ProtoRest.Proofs.Path.AcceptedTexts
import ProtoRest.Proofs.Route.RequestParts
import ProtoRest.Proofs.Setting.Precedence
import ProtoRest.Proofs.Plugin.Answers
import ProtoRest.Descriptor.Plain
import ProtoRest.Proofs.Descriptor.PlainPool
import ProtoRest.Proofs.Descriptor.PlainBuild
import ProtoRest.Proofs.Schema.PlainLoad
import ProtoRest.Proofs.Plugin.EnumOptions
import ProtoRest.Proofs.Path.WellFormedTemplates
import ProtoRest.Proofs.Path.TemplateTexts
import ProtoRest.Proofs.Path.CanonicalTexts
import ProtoRest.Route.ParameterNames
import ProtoRest.Proofs.Route.ParameterLists
import ProtoRest.Path.RoutePaths
import ProtoRest.Proofs.Path.RouteTexts
import ProtoRest.Proofs.Route.ShapeLanguages
import ProtoRest.Proofs.Schema.TypePaths
import ProtoRest.Proofs.Schema.ModulePaths
import ProtoRest.Proofs.Schema.EscapedPaths
import ProtoRest.Proofs.Descriptor.DistinctNames
import ProtoRest.Proofs.Descriptor.Origins
import ProtoRest.Plugin.Storage
import ProtoRest.Proofs.Plugin.StoredFields
import ProtoRest.Proofs.Plugin.LoadedStatuses
import ProtoRest.Proofs.Schema.EnumPlaces
import ProtoRest.ErrorSet.Dispatch
import ProtoRest.Proofs.ErrorSet.Overlaps
import ProtoRest.Proofs.Plugin.WrittenOptions
import ProtoRest.Proofs.Route.OtherSettings
import ProtoRest.Proofs.Route.AuthLines
import ProtoRest.Proofs.Setting.LongOptions
import ProtoRest.Proofs.Text.CamelCase
import ProtoRest.Proofs.Fault.JoinedFaults
import ProtoRest.Proofs.Schema.Comments
